import Ammc.ClearLine
import Ammc.Receipts

namespace Ammc.Exchange

open ByteMemory Serial Packet Master

/-!
# Connecting again

After a packet with an id that it does not expect, the master has read the four
bytes of a header, and takes what follows for the next packet.  The handshakes
with which the client connects again are read from wherever the master then
stands.  Whether it finds the beginning of one of them depends on how many bytes
of the refused packet were left: it moves through the handshakes in steps of four
bytes, and at two places out of five it takes a byte that is 0 for their id, and
the next 0 for a size.
-/

theorem handshake_craftable : Craftable ComType.hnd.code none 0 :=
  craftable_of_none (by decide)

/-- The packet with which `communication_connect` begins. -/
def handshake : Frame :=
  sentFrame 0 0 handshake_craftable

/-- The bytes of some handshakes. -/
def calls (count : Nat) : List UInt8 :=
  streamBytes (List.replicate count handshake)

theorem bytes_handshake : handshake.bytes = [0, 1, 0, 5, 112] := by
  decide +kernel

theorem calls_succ (count : Nat) :
    calls (count + 1) = 0 :: 1 :: 0 :: 5 :: 112 :: calls count := by
  rw [calls, List.replicate_succ, streamBytes, List.flatMap_cons,
    bytes_handshake]
  rfl

/-! ## What the master reads -/

/-- A header is refused unless its first byte is 0, once the id is 0. -/
theorem reads_refuse
    {id type selector size : UInt8}
    (nonzero : id ≠ 0)
    {tail left : List UInt8}
    {attempts : List Attempt}
    {ending : Ending}
    (reads : Reads 0 tail attempts left ending) :
    Reads 0 (id :: type :: selector :: size :: tail)
      (.refused id type selector size :: attempts) left ending := by
  have made : (Attempt.refused id type selector size).Made 0 :=
    Or.inl ⟨nonzero, Or.inr nonzero⟩
  exact .attempt made reads

/-- Handshakes that are read from their first byte on are all accepted. -/
theorem reads_calls
    (globalId : UInt8)
    (count : Nat) :
    Reads globalId (calls count)
      (List.replicate count (.taken handshake.toDatagram)) [] .drained := by
  induction count generalizing globalId with
  | zero => exact .stop .drained
  | succ count inductionHypothesis =>
      have made :
          (Attempt.taken handshake.toDatagram).Made globalId :=
        Or.inr ⟨rfl, rfl⟩
      exact .attempt made (inductionHypothesis _)

/-- From the third byte of a handshake on, the master reads too far. -/
theorem reads_calls_overrun (count : Nat) :
    Reads 0 (0 :: 5 :: 112 :: calls (count + 1)) []
      (0 :: 5 :: 112 :: calls (count + 1)) .overrun := by
  rw [calls_succ]
  have passed : ¬ HeaderRefused 0 0 5 0 := by
    decide
  exact .stop (.overrun passed (by decide))

/-- None of the bytes at which the master looks for an id is 0. -/
def Unheaded (bytes : List UInt8) : Prop :=
  ∀ index, bytes[4 * index]? ≠ some 0

/-- The attempt is no accepted packet. -/
def Refusal : Attempt → Prop
  | .refused _ _ _ _ => True
  | .taken _ => False

/-- All headers that are read from such bytes are refused. -/
theorem reads_skip
    {count : Nat}
    {skipped tail left : List UInt8}
    {attempts : List Attempt}
    {ending : Ending}
    (length : skipped.length = 4 * count)
    (unheaded : Unheaded skipped)
    (reads : Reads 0 tail attempts left ending) :
    ∃ refusals,
      (∀ attempt ∈ refusals, Refusal attempt) ∧
        Reads 0 (skipped ++ tail) (refusals ++ attempts) left ending := by
  induction count generalizing skipped with
  | zero =>
      have nothing : skipped = [] :=
        List.length_eq_zero_iff.mp length
      subst nothing
      exact ⟨[], List.forall_mem_nil _, reads⟩
  | succ count inductionHypothesis =>
      have whole : headerSize ≤ skipped.length := by
        rw [length]
        exact Nat.le_add_left 4 (4 * count)
      obtain ⟨id, type, selector, size, more, rfl⟩ := exists_header whole
      have shorter : more.length = 4 * count :=
        Nat.add_right_cancel
          (show more.length + 4 = 4 * count + 4 from length)
      have nonzero : id ≠ 0 := fun same =>
        unheaded 0 (congrArg some same)
      obtain ⟨refusals, refused, others⟩ :=
        inductionHypothesis shorter fun index => unheaded (index + 1)
      exact
        ⟨.refused id type selector size :: refusals,
          List.forall_mem_cons.mpr ⟨trivial, refused⟩,
          reads_refuse nonzero others⟩

/-- Behind one byte, the master comes to the third byte of the third one. -/
theorem reads_behind_one
    {first : UInt8}
    (nonzero : first ≠ 0)
    (count : Nat) :
    Reads 0 (first :: calls (count + 3))
      [.refused first 0 1 0, .refused 5 112 0 1]
      (0 :: 5 :: 112 :: calls (count + 1)) .overrun := by
  have second :
      Reads 0 (5 :: 112 :: calls (count + 2)) [.refused 5 112 0 1]
        (0 :: 5 :: 112 :: calls (count + 1)) .overrun := by
    rw [calls_succ]
    exact reads_refuse (by decide) (reads_calls_overrun count)
  rw [calls_succ]
  exact reads_refuse nonzero second

/-- Behind two bytes, it comes to the third byte of the second one. -/
theorem reads_behind_two
    {first : UInt8}
    (nonzero : first ≠ 0)
    (second : UInt8)
    (count : Nat) :
    Reads 0 (first :: second :: calls (count + 3))
      [.refused first second 0 1]
      (0 :: 5 :: 112 :: calls (count + 2)) .overrun := by
  rw [calls_succ]
  exact reads_refuse nonzero (reads_calls_overrun (count + 1))

/-- Behind three bytes, it comes to the beginning of the second one. -/
theorem reads_behind_three
    {first : UInt8}
    (nonzero : first ≠ 0)
    (second third : UInt8)
    (count : Nat) :
    Reads 0 (first :: second :: third :: calls (count + 3))
      ([.refused first second third 0, .refused 1 0 5 112] ++
        List.replicate (count + 2) (.taken handshake.toDatagram))
      [] .drained := by
  rw [calls_succ]
  exact
    reads_refuse nonzero
      (reads_refuse (by decide) (reads_calls 0 (count + 2)))

/-- What the handshakes come to behind some bytes of a packet. -/
inductive Outcome
    (count : Nat) : List Attempt → Ending → Prop where
  | reached
      {refusals : List Attempt}
      {accepted : Nat}
      (nearly : count ≤ accepted + 1)
      (refused : ∀ attempt ∈ refusals, Refusal attempt) :
      Outcome count
        (refusals ++
          List.replicate accepted (.taken handshake.toDatagram))
        .drained
  | overrun
      {refusals : List Attempt}
      (refused : ∀ attempt ∈ refusals, Refusal attempt) :
      Outcome count refusals .overrun

/-- More refusals before them make no difference. -/
theorem Outcome.behind
    {count : Nat}
    {attempts refusals : List Attempt}
    {ending : Ending}
    (outcome : Outcome count attempts ending)
    (refused : ∀ attempt ∈ refusals, Refusal attempt) :
    Outcome count (refusals ++ attempts) ending := by
  cases outcome with
  | reached nearly others =>
      rw [← List.append_assoc]
      exact .reached nearly (List.forall_mem_append.mpr ⟨refused, others⟩)
  | overrun others =>
      exact .overrun (List.forall_mem_append.mpr ⟨refused, others⟩)

/-- The last bytes that the master reads before the handshakes. -/
theorem reads_rest
    {rest : List UInt8}
    (few : rest.length < 4)
    (unheaded : Unheaded rest)
    {count : Nat}
    (several : 3 ≤ count) :
    ∃ attempts left ending,
      Reads 0 (rest ++ calls count) attempts left ending ∧
        Outcome count attempts ending ∧
        (ending = .drained ↔ rest.length = 0 ∨ rest.length = 3) := by
  obtain ⟨count, rfl⟩ := Nat.exists_eq_add_of_le' several
  have unheadedFirst : rest[0]? ≠ some 0 :=
    unheaded 0
  have refusedOne :
      ∀ id type selector size,
        ∀ attempt ∈ [Attempt.refused id type selector size],
          Refusal attempt :=
    fun _ _ _ _ => List.forall_mem_singleton.mpr trivial
  rcases rest with _ | ⟨first, rest⟩
  · exact
      ⟨_, [], _, reads_calls 0 (count + 3),
        @Outcome.reached _ [] _ (Nat.le_succ _) (List.forall_mem_nil _),
        by simp⟩
  have nonzero : first ≠ 0 := fun same =>
    unheadedFirst (congrArg some same)
  rcases rest with _ | ⟨second, rest⟩
  · exact
      ⟨_, _, _, reads_behind_one nonzero count,
        .overrun
          (List.forall_mem_cons.mpr ⟨trivial, refusedOne _ _ _ _⟩),
        by simp⟩
  rcases rest with _ | ⟨third, rest⟩
  · exact
      ⟨_, _, _, reads_behind_two nonzero second count,
        .overrun (refusedOne _ _ _ _), by simp⟩
  rcases rest with _ | ⟨fourth, rest⟩
  · exact
      ⟨_, _, _, reads_behind_three nonzero second third count,
        .reached (Nat.le_refl _)
          (List.forall_mem_cons.mpr ⟨trivial, refusedOne _ _ _ _⟩),
        by simp⟩
  · have long : 4 ≤ (first :: second :: third :: fourth :: rest).length :=
      Nat.le_add_left 4 rest.length
    exact absurd few (Nat.not_lt.mpr long)

/-- A refused packet, and handshakes behind it. -/
theorem reads_reconnecting
    {globalId : UInt8}
    {frame : Frame}
    (unexpected : ¬ frame.Admitted globalId)
    (unheaded : Unheaded frame.rest)
    {count : Nat}
    (several : 3 ≤ count) :
    ∃ attempts left ending,
      Reads globalId (frame.bytes ++ calls count) attempts left ending ∧
        Outcome count attempts ending ∧
        (ending = .drained ↔
          frame.rest.length % 4 = 0 ∨ frame.rest.length % 4 = 3) := by
  have refused :
      HeaderRefused globalId frame.id frame.type frame.size := by
    rw [Datagram.Admitted, not_or, not_and_or] at unexpected
    exact Or.inl unexpected
  have bytes := frame.rest.take_append_drop (4 * (frame.rest.length / 4))
  have skippedLength :
      (frame.rest.take (4 * (frame.rest.length / 4))).length =
        4 * (frame.rest.length / 4) :=
    List.length_take_of_le (Nat.mul_div_le _ _)
  have restLength :
      (frame.rest.drop (4 * (frame.rest.length / 4))).length =
        frame.rest.length % 4 := by
    rw [List.length_drop]
    exact (Nat.mod_eq_sub_mul_div).symm
  have skippedUnheaded :
      Unheaded (frame.rest.take (4 * (frame.rest.length / 4))) := by
    intro index same
    rw [List.getElem?_take] at same
    split at same
    · exact unheaded index same
    · cases same
  have restUnheaded :
      Unheaded (frame.rest.drop (4 * (frame.rest.length / 4))) := by
    intro index same
    rw [List.getElem?_drop, ← Nat.mul_add] at same
    exact unheaded _ same
  obtain ⟨attempts, left, ending, others, outcome, decided⟩ :=
    @reads_rest _
      (by
        rw [restLength]
        exact Nat.mod_lt _ (by decide))
      restUnheaded count several
  obtain ⟨refusals, allRefused, reads⟩ :=
    reads_skip skippedLength skippedUnheaded others
  rw [← List.append_assoc, bytes] at reads
  rw [restLength] at decided
  have made :
      (Attempt.refused frame.id frame.type frame.selector
        frame.size).Made globalId :=
    refused
  have header :
      ∀ attempt ∈
          [Attempt.refused frame.id frame.type frame.selector frame.size],
        Refusal attempt :=
    List.forall_mem_singleton.mpr trivial
  exact
    ⟨_, left, ending, .attempt made reads,
      (outcome.behind allRefused).behind header, decided⟩

/-! ## What becomes of the handshakes -/

theorem verdict_handshake : handshake.verdict = .success := by
  decide +kernel

/-- The results of the checks on some attempts. -/
theorem results_append
    (globalId : UInt8)
    (read : Nat)
    (first second : List Attempt) :
    ∃ laterRead,
      receiptsOf globalId read (first ++ second) =
        receiptsOf globalId read first ++
          receiptsOf (idAfter globalId first) laterRead second := by
  induction first generalizing globalId read with
  | nil => exact ⟨read, rfl⟩
  | cons attempt first inductionHypothesis =>
      obtain ⟨laterRead, split⟩ :=
        inductionHypothesis (attempt.nextId globalId)
          (read + attempt.bytes.length)
      exact ⟨laterRead, congrArg (List.cons _) split⟩

/-- Nothing of what is refused is accepted. -/
theorem success_not_mem
    {refusals : List Attempt}
    (refused : ∀ attempt ∈ refusals, Refusal attempt)
    (globalId : UInt8)
    (read : Nat) :
    ComError.success ∉
      (receiptsOf globalId read refusals).map Prod.snd := by
  induction refusals generalizing globalId read with
  | nil => exact List.not_mem_nil
  | cons attempt refusals inductionHypothesis =>
      obtain ⟨first, others⟩ := List.forall_mem_cons.mp refused
      rw [receiptsOf, List.map_cons, List.mem_cons, not_or]
      refine ⟨?_, inductionHypothesis others _ _⟩
      cases attempt with
      | taken packet => exact absurd first id
      | refused id type selector size =>
          rw [Attempt.verdict]
          split
          · exact fun same => ComError.noConfusion same
          · exact fun same => ComError.noConfusion same

/-- All of the handshakes that are read are. -/
theorem count_handshakes
    (globalId : UInt8)
    (read accepted : Nat) :
    ((receiptsOf globalId read
        (List.replicate accepted
          (.taken handshake.toDatagram))).map Prod.snd).count
        ComError.success =
      accepted := by
  induction accepted generalizing globalId read with
  | zero => rfl
  | succ accepted inductionHypothesis =>
      have first :
          (Attempt.taken handshake.toDatagram).verdict globalId =
            .success :=
        verdict_handshake
      rw [List.replicate_succ, receiptsOf, List.map_cons, first,
        List.count_cons_self, inductionHypothesis]

/-- After a handshake the id is 1. -/
theorem idAfter_handshakes
    (globalId : UInt8)
    (attempts : List Attempt)
    (accepted : Nat) :
    idAfter globalId
        (attempts ++
          List.replicate (accepted + 1) (.taken handshake.toDatagram)) =
      1 := by
  have reset :
      ∀ id : UInt8,
        (Attempt.taken handshake.toDatagram).nextId id = 1 := by
    intro id
    rw [Attempt.nextId, Datagram.nextId, if_pos verdict_handshake]
    rfl
  rw [List.replicate_succ', ← List.append_assoc, idAfter,
    List.foldl_concat]
  exact reset _

section Reconnecting

variable {ε : Type}
variable (bus : Bus ε)

/-- The results of a run that has made some attempts. -/
theorem verdicts_attempts
    (globalId : UInt8)
    (rx : Memory)
    (env : ε)
    (bytes : List UInt8)
    (attempts : List Attempt) :
    verdicts
        (carriedOut bus (⟨globalId, .receiving, rx⟩, Port.start bytes env)
          attempts).2.log =
      (receiptsOf globalId 0 attempts).map Prod.snd :=
  verdicts_carriedOut bus
    (⟨globalId, .receiving, rx⟩, Port.start bytes env) attempts

/-- Handshakes that are reached are accepted, and the handler returns. -/
theorem handleBytes_reached
    {globalId : UInt8}
    {bytes left : List UInt8}
    {attempts : List Attempt}
    (reads : Reads globalId bytes attempts left .drained)
    {count : Nat}
    (several : 2 ≤ count)
    (outcome : Outcome count attempts .drained)
    (rx : Memory)
    (env : ε)
    (spare : Nat) :
    ∃ handler,
      (handleBytes bus globalId rx env bytes spare).1 =
          some (some (true, handler)) ∧
        handler.globalId = 1 ∧
        count ≤
          (verdicts
              (handleBytes bus globalId rx env bytes spare).2.log).count
            .success + 1 := by
  have ended := reads.ended bus rx env spare
  have judged := verdicts_attempts bus globalId rx env bytes attempts
  have lastId :=
    globalId_carriedOut bus
      (⟨globalId, .receiving, rx⟩, Port.start bytes env) attempts
  generalize
    carriedOut bus (⟨globalId, .receiving, rx⟩, Port.start bytes env)
      attempts = last at ended judged lastId
  generalize handleBytes bus globalId rx env bytes spare = run at ended ⊢
  cases ended
  cases outcome with
  | @reached refusals accepted nearly refused =>
      obtain ⟨more, rfl⟩ : ∃ more, accepted = more + 1 :=
        ⟨accepted - 1, by omega⟩
      have performed :
          (!(refusals ++
              List.replicate (more + 1)
                (Attempt.taken handshake.toDatagram)).isEmpty) = true := by
        simp
      refine ⟨last.1, ?_, ?_, ?_⟩
      · rw [performed]
      · rw [lastId]
        exact idAfter_handshakes globalId refusals more
      · obtain ⟨read, split⟩ :=
          results_append globalId 0 refusals
            (List.replicate (more + 1)
              (.taken handshake.toDatagram))
        rw [judged, split, List.map_append, List.count_append,
          count_handshakes]
        exact
          Nat.le_trans nearly
            (Nat.add_le_add_right (Nat.le_add_left _ _) 1)

/-- Otherwise it waits, and has accepted nothing. -/
theorem handleBytes_overrun
    {globalId : UInt8}
    {bytes left : List UInt8}
    {attempts : List Attempt}
    (reads : Reads globalId bytes attempts left .overrun)
    {count : Nat}
    (outcome : Outcome count attempts .overrun)
    (few : bytes.length < 256)
    (rx : Memory)
    (env : ε)
    (spare : Nat) :
    (handleBytes bus globalId rx env bytes spare).1 = none ∧
      ComError.success ∉
        verdicts
          (handleBytes bus globalId rx env bytes spare).2.log := by
  have ended := reads.ended bus rx env spare
  have judged := verdicts_attempts bus globalId rx env bytes attempts
  have unread :=
    @Reads.input_carriedOut _ bus _ _ _ _ _ reads
      (⟨globalId, .receiving, rx⟩, Port.start bytes env) rfl
  generalize
    carriedOut bus (⟨globalId, .receiving, rx⟩, Port.start bytes env)
      attempts = last at ended judged unread
  generalize handleBytes bus globalId rx env bytes spare = run at ended ⊢
  cases ended with
  | overrun overruns =>
      have leftFew : last.2.input.length < 256 := by
        rw [unread]
        rw [reads.bytes_eq, List.length_append] at few
        omega
      obtain ⟨waiting, begun⟩ := overruns.waits leftFew
      refine ⟨waiting, ?_⟩
      rw [begun.verdicts, judged]
      cases outcome with
      | overrun refused => exact success_not_mem refused globalId 0

/-- The master that has a packet and some handshakes sent to it. -/
def reconnecting
    (globalId : UInt8)
    (rx : Memory)
    (env : ε)
    (frame : Frame)
    (count spare : Nat) :
    Option (Option (Bool × Handler)) × Port Master.signature ε :=
  handleBytes bus globalId rx env (frame.bytes ++ calls count) spare

/--
After a packet with an unexpected id, connecting again leads back to the master
exactly if the bytes behind the header of that packet are a multiple of four, or
one less.  All handshakes but one are then accepted.  Otherwise the master asks
for bytes beyond its packet object, and waits for them without accepting any of
the handshakes.
-/
theorem reconnects_iff
    {globalId : UInt8}
    {frame : Frame}
    (unexpected : ¬ frame.Admitted globalId)
    (unheaded : Unheaded frame.rest)
    {count : Nat}
    (several : 3 ≤ count)
    (rx : Memory)
    (env : ε)
    (spare : Nat) :
    ((reconnecting bus globalId rx env frame count
            spare).2.RequestsInside packetSize ↔
        frame.rest.length % 4 = 0 ∨ frame.rest.length % 4 = 3) ∧
      ((reconnecting bus globalId rx env frame count
              spare).2.RequestsInside packetSize →
        ∃ handler,
          (reconnecting bus globalId rx env frame count spare).1 =
              some (some (true, handler)) ∧
            handler.globalId = 1 ∧
            count ≤
              (verdicts
                  (reconnecting bus globalId rx env frame count
                    spare).2.log).count .success + 1) ∧
      (¬ (reconnecting bus globalId rx env frame count
              spare).2.RequestsInside packetSize →
        (frame.bytes ++ calls count).length < 256 →
        (reconnecting bus globalId rx env frame count spare).1 = none ∧
          ComError.success ∉
            verdicts
              (reconnecting bus globalId rx env frame count
                spare).2.log) := by
  obtain ⟨attempts, left, ending, reads, outcome, decided⟩ :=
    reads_reconnecting unexpected unheaded several
  have started :
      (Port.start (frame.bytes ++ calls count) env :
        Port Master.signature ε).RequestsInside packetSize :=
    List.forall_mem_nil _
  have inside :
      (reconnecting bus globalId rx env frame count
            spare).2.RequestsInside packetSize ↔
        ending ≠ .overrun :=
    (reads.ended bus rx env spare).stays_inside_iff
      (@inside_carriedOut _ bus
        (⟨globalId, .receiving, rx⟩,
          Port.start (frame.bytes ++ calls count) env) started attempts)
  rw [inside, ← decided]
  have two : 2 ≤ count :=
    Nat.le_of_succ_le several
  cases ending with
  | waiting => cases outcome
  | drained =>
      refine ⟨⟨fun _ => rfl, fun _ same => Ending.noConfusion same⟩, ?_, ?_⟩
      · exact fun _ =>
          handleBytes_reached bus reads two outcome rx env spare
      · exact fun overrun =>
          absurd (fun same => Ending.noConfusion same) overrun
  | overrun =>
      refine ⟨⟨fun other => absurd rfl other, ?_⟩, ?_, ?_⟩
      · exact fun same => Ending.noConfusion same
      · exact fun other => absurd rfl other
      · exact fun _ few =>
          handleBytes_overrun bus reads outcome few rx env spare

end Reconnecting

theorem ping_craftable : Craftable ComType.ping.code none 0 :=
  craftable_of_none (by decide)

/-- A ping of slave 5 from a client that is at id 3. -/
def lostPing : Frame :=
  sentFrame 3 5 ping_craftable

/-- A master that has been restarted is lost to this client. -/
theorem lostPing_overrun :
    ¬ (reconnecting idleBus 0 (fun _ => 0) () lostPing 3
          0).2.RequestsInside packetSize ∧
      (reconnecting idleBus 0 (fun _ => 0) () lostPing 3 0).1 = none := by
  have rest : lostPing.rest = [160] := by
    decide +kernel
  have unheaded : Unheaded lostPing.rest := by
    intro index
    rw [rest]
    cases index with
    | zero => decide
    | succ index =>
        have beyond : [(160 : UInt8)].length ≤ 4 * (index + 1) := by
          rw [List.length_singleton]
          omega
        rw [List.getElem?_eq_none beyond]
        exact (Option.some_ne_none 0).symm
  obtain ⟨decided, _, stuck⟩ :=
    @reconnects_iff Unit idleBus 0 lostPing (by decide +kernel) unheaded 3
      (Nat.le_refl 3) (fun _ => 0) () 0
  have outside :
      ¬ (reconnecting idleBus 0 (fun _ => 0) () lostPing 3
          0).2.RequestsInside packetSize := by
    rw [decided, rest]
    decide
  exact ⟨outside, (stuck outside (by decide +kernel)).1⟩

end Ammc.Exchange
