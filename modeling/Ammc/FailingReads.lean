import Ammc.Behaviours
import Ammc.ClientCommunication
import Ammc.SerialTransfers

namespace Ammc.Client

open ByteMemory Serial Packet ShortTransfers

/-!
# Receiving while reads may fail

`_recv_attempt` does not look at what `serial_rx` returns.  The client's
programs are run in surroundings where every call of `read` has a result of its
own; a read event lists the results that one call of `serial_rx` used, and what
they leave in the object is the area that they set.
-/

/-- The results of the calls of `read` in one call of `serial_rx`. -/
abbrev ReadResults := List (Option (List UInt8))

/-- What passes between the client and its surroundings. -/
abbrev ClientEvent := Event signature ReadResults

/-- The results end the loop of `serial_rx` and set these bytes. -/
def Arrives
    (count : Nat)
    (got : ReadResults)
    (area : List UInt8) : Prop :=
  ∃ ending,
    transfer areaCall unsignedModulus count 0 [] got =
      some (ending, area, [])

/-- The bytes that some results set. -/
def landed
    (count : Nat)
    (got : ReadResults) : List UInt8 :=
  match transfer areaCall unsignedModulus count 0 [] got with
  | none => []
  | some (_, area, _) => area

/-- A run of a program of the client. -/
abbrev Runs
    (program : ClientProg α)
    (events : List ClientEvent)
    (result : α) : Prop :=
  program.Yields Arrives events result

theorem Arrives.landed_eq
    {count : Nat}
    {got : ReadResults}
    {area : List UInt8}
    (arrived : Arrives count got area) :
    landed count got = area := by
  obtain ⟨ending, ended⟩ := arrived
  rw [landed, ended]

/-- The events of a run of the client determine its result. -/
theorem runs_unique
    {program : ClientProg α}
    {events : List ClientEvent}
    {first second : α}
    (run : Runs program events first)
    (again : Runs program events second) :
    first = second :=
  Prog.yields_unique
    (fun _ _ _ _ arrived arrivedAgain =>
      arrived.landed_eq.symm.trans arrivedAgain.landed_eq)
    run again

/-- Reads that never fail bring all that was asked for, in order. -/
theorem Arrives.complete
    {count : Nat}
    {got : ReadResults}
    {area : List UInt8}
    (arrived : Arrives count got area)
    (sound : none ∉ got) :
    count < unsignedModulus ∧
      count ≤ (joined got).length ∧
      area = (joined got).take count := by
  obtain ⟨ending, ended⟩ := arrived
  cases ending with
  | complete =>
      exact ⟨narrow_of_complete ended, areaCall_complete ended⟩
  | failed =>
      have trivially :
          ∀ (_ : ReadResults) (done : Nat) (_ : List UInt8)
            (_ : List UInt8),
            done < count → True → True :=
        fun _ _ _ _ _ _ => trivial
      obtain ⟨moved, _, split, _, _⟩ :=
        transfer_invariant trivially trivial ended
      have used : none ∈ got := by
        rw [split, LoopEnd.used, List.append_nil]
        exact List.mem_append_right _ (List.mem_singleton_self _)
      exact absurd used sound

/-- Whole reads are among the reads that may happen. -/
theorem arrives_whole
    {bytes : List UInt8}
    (narrow : bytes.length < unsignedModulus) :
    ∃ got, Arrives bytes.length got bytes := by
  cases bytes with
  | nil => exact ⟨[], .complete, rfl⟩
  | cons byte bytes =>
      have below : 0 < (byte :: bytes).length :=
        Nat.zero_lt_succ _
      refine ⟨[some (byte :: bytes)], .complete, ?_⟩
      rw [transfer_moved below,
        counter_eq narrow (areaCall_movesOffer narrow) below,
        Nat.zero_add, Nat.min_self, transfer_complete (Nat.le_refl _)]
      change some (LoopEnd.complete,
        [].take 0 ++
            (byte :: bytes).take (callMost (byte :: bytes).length) ++
          [].drop _,
        []) = _
      rw [callMost_of_narrow narrow (Nat.le_refl _), List.take_length,
        List.drop_nil, List.append_nil, List.take_nil, List.nil_append]

/-- A run against a port, with reads that the counter can hold, is a run. -/
theorem exec_runs
    (world : World signature ε)
    {program : ClientProg α}
    {port after : Port signature ε}
    {value : α}
    (finished : exec world program port = (some value, after))
    (narrow : ∀ request ∈ after.requests, request.2 < unsignedModulus) :
    ∃ events, Runs program events value :=
  exec_yields world finished fun offset bytes requested =>
    arrives_whole (narrow (offset, bytes.length) requested)

/-! ## The serial functions -/

/-- The question of `valid_dev`, and its answer. -/
def checks
    (fd : Int)
    (tty : Bool) : List ClientEvent :=
  if fd > 2 then [.asked (.isatty fd) tty] else []

@[simp] theorem runs_validDev
    {fd : Int}
    {events : List ClientEvent}
    {ok : Bool} :
    Runs (validDev fd) events ok ↔
      events = checks fd ok ∧ (fd ≤ 2 → ok = false) := by
  rw [validDev, checks]
  by_cases above : fd > 2
  · rw [if_pos above, if_pos above]
    have unlimited : fd ≤ 2 → ok = false :=
      fun limited => absurd above (Int.not_lt.mpr limited)
    rw [and_iff_left unlimited]
    exact Prog.yields_query
  · rw [if_neg above, if_neg above]
    have limited : fd ≤ 2 :=
      Int.not_lt.mp above
    constructor
    · rintro ⟨rfl, rfl⟩
      exact ⟨rfl, fun _ => rfl⟩
    · rintro ⟨rfl, refused⟩
      exact ⟨rfl, refused limited⟩

/-- The ways in which `serial_rx` deals with its descriptor and its reads. -/
inductive Receives
    (fd : Int)
    (dest : Memory)
    (offset size : Nat) :
    List ClientEvent → Int × Memory → Prop where
  | refused : Receives fd dest offset size (checks fd false) (0, dest)
  | through
      (above : 2 < fd)
      (got : ReadResults)
      (area : List UInt8)
      (arrived : Arrives size got area) :
      Receives fd dest offset size
        [.asked (.isatty fd) true, .read offset size got]
        (if area.length < size then -1 else size, dest.store offset area)

theorem runs_serialRx
    {fd : Int}
    {dest : Memory}
    {offset size : Nat}
    {events : List ClientEvent}
    {result : Int × Memory} :
    Runs (serialRx fd dest offset size) events result ↔
      Receives fd dest offset size events result := by
  constructor
  · intro run
    obtain ⟨first, second, ok, rfl, valid, rest⟩ := Prog.yields_bind.mp run
    obtain ⟨rfl, refused⟩ := runs_validDev.mp valid
    cases ok with
    | false =>
        obtain ⟨rfl, rfl⟩ := rest
        rw [List.append_nil]
        exact .refused
    | true =>
        have above : 2 < fd := by
          by_contra limited
          cases refused (Int.not_lt.mp limited)
        obtain ⟨_, _, area, rfl, received, rfl, rfl⟩ :=
          Prog.yields_bind.mp rest
        obtain ⟨got, rfl, arrived⟩ := Prog.yields_receive.mp received
        rw [checks, if_pos above]
        exact .through above got area arrived
  · intro receives
    apply Prog.yields_bind.mpr
    cases receives with
    | refused =>
        exact
          ⟨checks fd false, [], false, (List.append_nil _).symm,
            runs_validDev.mpr ⟨rfl, fun _ => rfl⟩, rfl, rfl⟩
    | through above got area arrived =>
        have valid : Runs (validDev fd) [.asked (.isatty fd) true] true := by
          apply runs_validDev.mpr
          rw [checks, if_pos above]
          exact
            ⟨rfl, fun limited => absurd above (Int.not_lt.mpr limited)⟩
        exact
          ⟨[.asked (.isatty fd) true], [.read offset size got], true, rfl,
            valid,
            Prog.yields_bind.mpr
              ⟨[.read offset size got], [], area, rfl,
                Prog.yields_receive.mpr ⟨got, rfl, arrived⟩, rfl, rfl⟩⟩

/--
The loop of `serial_rx` makes the calls of `read` that the events list, and
leaves this object; a counter that can hold the size makes it return this code.
-/
def CalledFor
    (fd : Int)
    (dest : Memory)
    (offset size : Nat)
    (events : List ClientEvent)
    (code : Int)
    (after : Memory) : Prop :=
  ∃ tty got returned,
    events =
        (if fd > 2 ∧ tty = true then
          [.asked (.isatty fd) true, .read offset size got]
        else
          checks fd false) ∧
      serialRxCalls fd tty (some dest) offset size got =
        some (returned, some after, []) ∧
      (size < unsignedModulus → returned = code)

/-- `serial_rx` in the programs of the client is its loop. -/
theorem serialRx_calls
    {fd : Int}
    {dest after : Memory}
    {offset size : Nat}
    {events : List ClientEvent}
    {code : Int}
    (run : Runs (serialRx fd dest offset size) events (code, after)) :
    CalledFor fd dest offset size events code after := by
  generalize ended : (code, after) = result at run
  cases runs_serialRx.mp run with
  | refused =>
      cases ended
      have refused : ¬ (fd > 2 ∧ false = true) := by
        rintro ⟨_, tty⟩
        cases tty
      refine ⟨false, [], 0, (if_neg refused).symm, ?_, fun _ => rfl⟩
      rw [serialRxCalls, if_neg refused]
  | through above got area arrived =>
      cases ended
      obtain ⟨ending, gathered⟩ := arrived
      refine
        ⟨true, got, transferred size ending, (if_pos ⟨above, rfl⟩).symm,
          ?_, ?_⟩
      · rw [serialRxCalls_valid above,
          transfer_readCall_of_areaCall dest offset gathered,
          Option.map_some]
      · intro narrow
        cases ending with
        | complete =>
            obtain ⟨enough, first⟩ := areaCall_complete gathered
            have length : area.length = size := by
              rw [first, List.length_take_of_le enough]
            rw [transferred, ssize_of_narrow narrow, length,
              if_neg (Nat.lt_irrefl size)]
        | failed =>
            rw [transferred, if_pos (areaCall_failed narrow gathered)]

/-! ## A receive attempt -/

/-- An object once an event has set bytes in it. -/
def lay (p : Memory) : ClientEvent → Memory
  | .read offset count got => p.store offset (landed count got)
  | _ => p

/-- The previous contents of an object under the bytes that were read. -/
def laid
    (p : Memory)
    (events : List ClientEvent) : Memory :=
  events.foldl lay p

/-- The bytes that an event brings, if its reads do not fail. -/
def brought : ClientEvent → List UInt8
  | .read _ count got => (joined got).take count
  | _ => []

/-- The bytes that came from the device. -/
def delivered (events : List ClientEvent) : List UInt8 :=
  events.flatMap brought

/-- The bytes from `offset` on were read, and no call of `read` failed. -/
def BroughtAt
    (offset : Nat)
    (events : List ClientEvent) : Prop :=
  ∃ count got, .read offset count got ∈ events ∧ none ∉ got

/-- No call of `read` failed. -/
def Unfailed (events : List ClientEvent) : Prop :=
  ∀ offset count got, .read offset count got ∈ events → none ∉ got

/--
The reads of an attempt brought the header and, unless it declares that nothing
follows, what follows the header.
-/
def Sound
    (p : Memory)
    (events : List ClientEvent) : Prop :=
  BroughtAt 0 events ∧
    ((packetGetSize (laid p events)).toNat = headerSize ∨
      BroughtAt headerSize events)

/-- An object that `_recv_attempt` takes for the expected packet. -/
structure Passes
    (globalId : UInt8)
    (p : Memory) : Prop where
  expected : packetGetId p = globalId
  checked : crcCheck (p.bytes 0 (packetGetSize p).toNat) = 0

/-- The expected packet, every byte of which came from the device. -/
structure Genuine
    (globalId : UInt8)
    (events : List ClientEvent)
    (p : Memory) : Prop extends Passes globalId p where
  unfailed : Unfailed events
  headed : headerSize ≤ (packetGetSize p).toNat
  whole : delivered events = p.bytes 0 (packetGetSize p).toNat

@[simp] theorem laid_append
    (p : Memory)
    (first second : List ClientEvent) :
    laid p (first ++ second) = laid (laid p first) second :=
  List.foldl_append

@[simp] theorem delivered_append (first second : List ClientEvent) :
    delivered (first ++ second) = delivered first ++ delivered second :=
  List.flatMap_append

/-- `serial_rx` lays what it reads over the object. -/
theorem Receives.laid_eq
    {fd : Int}
    {dest : Memory}
    {offset size : Nat}
    {events : List ClientEvent}
    {result : Int × Memory}
    (receives : Receives fd dest offset size events result) :
    result.2 = laid dest events := by
  cases receives with
  | refused =>
      rw [checks]
      by_cases above : fd > 2
      · rw [if_pos above]
        rfl
      · rw [if_neg above]
        rfl
  | through above got area arrived =>
      change dest.store offset area = dest.store offset (landed size got)
      rw [arrived.landed_eq]

/-- What a read stores behind the header leaves the header alone. -/
theorem Receives.header
    {fd : Int}
    {dest : Memory}
    {size position : Nat}
    {events : List ClientEvent}
    {result : Int × Memory}
    (receives : Receives fd dest headerSize size events result)
    (inside : position < headerSize) :
    result.2 position = dest position := by
  cases receives with
  | refused => rfl
  | through above got area arrived =>
      exact dest.store_before area inside

/-- The two reads of an attempt, with the second one only for the expected id. -/
theorem runs_recvAttempt
    {globalId : UInt8}
    {fd : Int}
    {p after : Memory}
    {events : List ClientEvent}
    {ret : ComError}
    (run : Runs (recvAttempt globalId fd p) events (ret, after)) :
    ∃ first middle code,
      Receives fd p 0 headerSize first (code, middle) ∧
      ((packetGetId middle ≠ globalId ∧ events = first ∧
          ret = .idMismatch ∧ after = middle) ∨
        (packetGetId middle = globalId ∧
          ∃ second code,
            Receives fd middle headerSize
                (bodyCount (packetGetSize middle)) second (code, after) ∧
              events = first ++ second ∧
              ret =
                if crcCheck (after.bytes 0 (packetGetSize after).toNat) ≠ 0
                then .corruptedChecksum else .success)) := by
  obtain ⟨first, rest, ⟨code, middle⟩, rfl, header, run⟩ :=
    Prog.yields_bind.mp run
  refine ⟨first, middle, code, runs_serialRx.mp header, ?_⟩
  dsimp only at run
  by_cases mismatch : packetGetId middle ≠ globalId
  · rw [if_pos mismatch] at run
    obtain ⟨rfl, ended⟩ := run
    cases ended
    exact Or.inl ⟨mismatch, List.append_nil _, rfl, rfl⟩
  · rw [if_neg mismatch] at run
    obtain ⟨second, _, ⟨bodyCode, filled⟩, rfl, body, run⟩ :=
      Prog.yields_bind.mp run
    obtain ⟨_, _, wrong, rfl, checked, rfl, ended⟩ :=
      Prog.yields_bind.mp run
    obtain ⟨rfl, rfl⟩ := checked
    cases ended
    dsimp only
    refine
      Or.inr
        ⟨not_not.mp mismatch, second, bodyCode, runs_serialRx.mp body, ?_,
          ?_⟩
    · rw [List.append_nil, List.append_nil]
    · by_cases damaged :
          crcCheck (filled.bytes 0 (packetGetSize filled).toNat) ≠ 0
      · rw [if_pos damaged, if_pos damaged]
        rfl
      · rw [if_neg damaged, if_neg damaged]
        rfl

/-- Every two such reads are those of a run. -/
theorem runs_recvAttempt_matched
    {globalId : UInt8}
    {fd : Int}
    {p middle after : Memory}
    {first second : List ClientEvent}
    {code bodyCode : Int}
    (header : Receives fd p 0 headerSize first (code, middle))
    (expected : packetGetId middle = globalId)
    (body :
      Receives fd middle headerSize (bodyCount (packetGetSize middle))
        second (bodyCode, after)) :
    Runs (recvAttempt globalId fd p) (first ++ second)
      (if crcCheck (after.bytes 0 (packetGetSize after).toNat) ≠ 0
        then .corruptedChecksum else .success,
        after) := by
  refine
    Prog.yields_bind.mpr
      ⟨first, second, (code, middle), rfl, runs_serialRx.mpr header, ?_⟩
  dsimp only
  rw [if_neg (not_not.mpr expected)]
  refine
    Prog.yields_bind.mpr
      ⟨second, [], (bodyCode, after), (List.append_nil _).symm,
        runs_serialRx.mpr body, ?_⟩
  refine
    Prog.yields_bind.mpr ⟨[], [], _, rfl, ⟨rfl, rfl⟩, rfl, ?_⟩
  by_cases damaged :
      crcCheck (after.bytes 0 (packetGetSize after).toNat) ≠ 0
  · rw [if_pos damaged, if_pos damaged]
    rfl
  · rw [if_neg damaged, if_neg damaged]
    rfl

/-- An attempt leaves what was read over the previous contents. -/
theorem recvAttempt_laid
    {globalId : UInt8}
    {fd : Int}
    {p after : Memory}
    {events : List ClientEvent}
    {ret : ComError}
    (run : Runs (recvAttempt globalId fd p) events (ret, after)) :
    after = laid p events := by
  obtain ⟨first, middle, code, header, mismatched | matched⟩ :=
    runs_recvAttempt run
  · obtain ⟨_, rfl, _, rfl⟩ := mismatched
    exact header.laid_eq
  · obtain ⟨_, second, _, body, rfl, _⟩ := matched
    rw [laid_append, ← header.laid_eq]
    exact body.laid_eq

/-- An attempt succeeds on whatever its object then holds. -/
theorem recvAttempt_success_iff
    {globalId : UInt8}
    {fd : Int}
    {p after : Memory}
    {events : List ClientEvent}
    {ret : ComError}
    (run : Runs (recvAttempt globalId fd p) events (ret, after)) :
    ret = .success ↔ Passes globalId after := by
  obtain ⟨first, middle, code, header, mismatched | matched⟩ :=
    runs_recvAttempt run
  · obtain ⟨mismatch, rfl, rfl, rfl⟩ := mismatched
    constructor
    · exact fun succeeded => ComError.noConfusion succeeded
    · exact fun passes => absurd passes.expected mismatch
  · obtain ⟨expected, second, _, body, rfl, rfl⟩ := matched
    have id : packetGetId after = globalId :=
      (body.header (by decide)).trans expected
    constructor
    · intro succeeded
      by_cases damaged :
          crcCheck (after.bytes 0 (packetGetSize after).toNat) ≠ 0
      · rw [if_pos damaged] at succeeded
        cases succeeded
      · exact ⟨id, not_not.mp damaged⟩
    · intro passes
      rw [if_neg (not_not.mpr passes.checked)]

/-- The reads of both parts failed nowhere. -/
theorem unfailed_append {first second : List ClientEvent} :
    Unfailed (first ++ second) ↔ Unfailed first ∧ Unfailed second := by
  constructor
  · intro unfailed
    exact
      ⟨fun offset count got member =>
          unfailed offset count got (List.mem_append_left _ member),
        fun offset count got member =>
          unfailed offset count got (List.mem_append_right _ member)⟩
  · rintro ⟨early, late⟩ offset count got member
    rcases List.mem_append.mp member with first | second
    · exact early offset count got first
    · exact late offset count got second

/-- What two parts brought, one of them brought. -/
theorem broughtAt_append
    {place : Nat}
    {first second : List ClientEvent} :
    BroughtAt place (first ++ second) ↔
      BroughtAt place first ∨ BroughtAt place second := by
  constructor
  · rintro ⟨count, got, member, sound⟩
    rcases List.mem_append.mp member with first | second
    · exact Or.inl ⟨count, got, first, sound⟩
    · exact Or.inr ⟨count, got, second, sound⟩
  · rintro (⟨count, got, member, sound⟩ | ⟨count, got, member, sound⟩)
    · exact ⟨count, got, List.mem_append_left _ member, sound⟩
    · exact ⟨count, got, List.mem_append_right _ member, sound⟩

section Parts

variable {fd : Int} {dest : Memory} {offset size : Nat}
variable {events : List ClientEvent} {result : Int × Memory}

/-- The question of `valid_dev` is no read. -/
theorem read_not_mem_checks
    {ok : Bool}
    {place count : Nat}
    {got : ReadResults} :
    .read place count got ∉ checks fd ok := by
  rw [checks]
  by_cases above : fd > 2
  · rw [if_pos above]
    intro member
    cases List.mem_singleton.mp member
  · rw [if_neg above]
    exact List.not_mem_nil

/-- The only read of `serial_rx` is the one that it was called for. -/
theorem Receives.read
    {place count : Nat}
    {got : ReadResults}
    (receives : Receives fd dest offset size events result)
    (member : .read place count got ∈ events) :
    place = offset ∧
      Arrives size got (landed size got) ∧
      events = [.asked (.isatty fd) true, .read offset size got] ∧
      result.2 = dest.store offset (landed size got) := by
  cases receives with
  | refused => exact absurd member read_not_mem_checks
  | through above results area arrived =>
      rcases List.mem_cons.mp member with asked | member
      · cases asked
      · cases List.mem_singleton.mp member
        rw [arrived.landed_eq]
        exact ⟨rfl, arrived, rfl, rfl⟩

/-- `serial_rx` brings nothing to another place. -/
theorem Receives.not_broughtAt
    {place : Nat}
    (receives : Receives fd dest offset size events result)
    (elsewhere : place ≠ offset) :
    ¬ BroughtAt place events := by
  rintro ⟨count, got, member, _⟩
  exact elsewhere (receives.read member).1

/-- Reads that did not fail have put everything in its place. -/
theorem Receives.whole
    (receives : Receives fd dest offset size events result)
    (brought : BroughtAt offset events) :
    size < unsignedModulus ∧
      (delivered events).length = size ∧
      result.2 = dest.store offset (delivered events) ∧
      Unfailed events := by
  obtain ⟨count, got, member, sound⟩ := brought
  obtain ⟨_, arrived, rfl, stored⟩ := receives.read member
  obtain ⟨narrow, enough, first⟩ := arrived.complete sound
  have all :
      delivered
          [.asked (.isatty fd) true, .read offset size got] =
        (joined got).take size :=
    List.append_nil _
  rw [all, stored, first, List.length_take_of_le enough]
  refine ⟨narrow, rfl, rfl, ?_⟩
  intro place count other member
  rcases List.mem_cons.mp member with asked | member
  · cases asked
  · cases List.mem_singleton.mp member
    exact sound

/-- Where nothing failed and nothing was brought, nothing was read. -/
theorem Receives.missing
    (receives : Receives fd dest offset size events result)
    (unfailed : Unfailed events)
    (missing : ¬ BroughtAt offset events) :
    delivered events = [] ∧ result.2 = dest := by
  cases receives with
  | refused =>
      refine ⟨?_, rfl⟩
      rw [checks]
      by_cases above : fd > 2
      · rw [if_pos above]
        rfl
      · rw [if_neg above]
        rfl
  | through above got area arrived =>
      have member :
          (.read offset size got : ClientEvent) ∈
            [.asked (.isatty fd) true, .read offset size got] :=
        List.mem_cons_of_mem _ (List.mem_singleton_self _)
      exact
        absurd ⟨size, got, member, unfailed _ _ _ member⟩ missing

/-- A read of nothing makes no call. -/
theorem Receives.unfailed_of_zero
    (receives : Receives fd dest offset 0 events result) :
    Unfailed events := by
  intro place count got member
  obtain ⟨_, ⟨ending, ended⟩, _, _⟩ := receives.read member
  rw [transfer_complete (Nat.le_refl 0)] at ended
  have unused : got = [] :=
    (Prod.mk.inj (Prod.mk.inj (Option.some.inj ended)).2).2
  rw [unused]
  exact List.not_mem_nil

end Parts

/-- A body that the counter can hold follows a whole header. -/
theorem bodyCount_of_narrow
    {size : UInt8}
    (narrow : bodyCount size < unsignedModulus) :
    headerSize + bodyCount size = size.toNat := by
  have limited := size.toNat_lt
  rw [bodyCount, unsignedModulus] at narrow
  rw [bodyCount, headerSize]
  omega

section Packet

variable {globalId : UInt8} {fd : Int} {p middle after : Memory}
variable {first second : List ClientEvent} {code bodyCode : Int}

/-- In a genuine packet nothing can be missing from the header. -/
theorem brought_of_genuine
    (header : Receives fd p 0 headerSize first (code, middle))
    (body :
      Receives fd middle headerSize (bodyCount (packetGetSize middle))
        second (bodyCode, after))
    (size : packetGetSize after = packetGetSize middle)
    (genuine : Genuine globalId (first ++ second) after) :
    BroughtAt 0 first ∧
      ((packetGetSize after).toNat = headerSize ∨
        BroughtAt headerSize second) := by
  obtain ⟨unfailedFirst, unfailedSecond⟩ :=
    unfailed_append.mp genuine.unfailed
  have headed := genuine.headed
  have whole := congrArg List.length genuine.whole
  rw [delivered_append, List.length_append, Memory.length_bytes] at whole
  by_cases gotHeader : BroughtAt 0 first
  · refine ⟨gotHeader, ?_⟩
    by_cases gotBody : BroughtAt headerSize second
    · exact Or.inr gotBody
    · have bare := (body.missing unfailedSecond gotBody).1
      rw [(header.whole gotHeader).2.1, bare] at whole
      exact Or.inl whole.symm
  · have bare := (header.missing unfailedFirst gotHeader).1
    rw [bare, List.length_nil, Nat.zero_add] at whole
    rw [headerSize] at headed
    by_cases gotBody : BroughtAt headerSize second
    · obtain ⟨narrow, length, _, _⟩ := body.whole gotBody
      have follows := bodyCount_of_narrow narrow
      rw [headerSize] at follows
      rw [length, size] at whole
      omega
    · have nothing := (body.missing unfailedSecond gotBody).1
      rw [nothing, List.length_nil] at whole
      omega

/-- What follows the header is complete, also where nothing follows. -/
theorem body_complete
    (body :
      Receives fd middle headerSize (bodyCount (packetGetSize middle))
        second (bodyCode, after))
    (size : packetGetSize after = packetGetSize middle)
    (followed :
      (packetGetSize after).toNat = headerSize ∨
        BroughtAt headerSize second) :
    Unfailed second ∧
      headerSize + (delivered second).length =
        (packetGetSize after).toNat ∧
      after = middle.store headerSize (delivered second) := by
  by_cases gotBody : BroughtAt headerSize second
  · obtain ⟨narrow, length, stored, unfailed⟩ := body.whole gotBody
    rw [length, size]
    exact ⟨unfailed, bodyCount_of_narrow narrow, stored⟩
  · have bare := followed.resolve_right gotBody
    have nothing : bodyCount (packetGetSize middle) = 0 := by
      rw [← size, bodyCount, bare]
      rfl
    rw [nothing] at body
    have unfailed := body.unfailed_of_zero
    obtain ⟨empty, same⟩ := body.missing unfailed gotBody
    rw [empty, Memory.store_nil]
    exact ⟨unfailed, bare.symm, same⟩

/-- A header and what follows it are the bytes of the packet. -/
theorem genuine_of_brought
    (header : Receives fd p 0 headerSize first (code, middle))
    (body :
      Receives fd middle headerSize (bodyCount (packetGetSize middle))
        second (bodyCode, after))
    (size : packetGetSize after = packetGetSize middle)
    (passes : Passes globalId after)
    (gotHeader : BroughtAt 0 first)
    (followed :
      (packetGetSize after).toNat = headerSize ∨
        BroughtAt headerSize second) :
    Genuine globalId (first ++ second) after := by
  obtain ⟨_, headerLength, headerStored, unfailedFirst⟩ :=
    header.whole gotHeader
  obtain ⟨unfailedSecond, length, stored⟩ :=
    body_complete body size followed
  refine
    { toPasses := passes
      unfailed := unfailed_append.mpr ⟨unfailedFirst, unfailedSecond⟩
      headed := ?_
      whole := ?_ }
  · rw [← length]
    exact Nat.le_add_right _ _
  · change middle = p.store 0 (delivered first) at headerStored
    have placed :
        after =
          (p.store 0 (delivered first)).store
            (delivered first).length (delivered second) := by
      rw [headerLength, ← headerStored]
      exact stored
    have total :
        (packetGetSize after).toNat =
          (delivered first).length + (delivered second).length := by
      rw [headerLength, length]
    rw [delivered_append, total, placed]
    exact (Memory.bytes_store_store p _ _).symm

end Packet

/-- A successful attempt has read its packet exactly if its reads were sound. -/
theorem genuine_iff_sound
    {globalId : UInt8}
    {fd : Int}
    {p after : Memory}
    {events : List ClientEvent}
    {ret : ComError}
    (run : Runs (recvAttempt globalId fd p) events (ret, after))
    (passes : Passes globalId after) :
    Genuine globalId events after ↔ Sound p events := by
  have laidAfter := recvAttempt_laid run
  obtain ⟨first, middle, code, header, mismatched | matched⟩ :=
    runs_recvAttempt run
  · obtain ⟨mismatch, _, _, rfl⟩ := mismatched
    exact absurd passes.expected mismatch
  · obtain ⟨_, second, _, body, rfl, _⟩ := matched
    have size : packetGetSize after = packetGetSize middle :=
      body.header (by decide)
    have early : BroughtAt 0 (first ++ second) ↔ BroughtAt 0 first :=
      broughtAt_append.trans
        (or_iff_left (body.not_broughtAt (by decide)))
    have late :
        BroughtAt headerSize (first ++ second) ↔
          BroughtAt headerSize second :=
      broughtAt_append.trans
        (or_iff_right (header.not_broughtAt (by decide)))
    rw [Sound, ← laidAfter, early, late]
    constructor
    · intro genuine
      exact brought_of_genuine header body size genuine
    · rintro ⟨gotHeader, followed⟩
      exact genuine_of_brought header body size passes gotHeader followed

/--
The reads of an attempt were sound, or what they left of the previous contents
is not taken for the expected packet.
-/
def Trustworthy
    (globalId : UInt8)
    (p : Memory)
    (events : List ClientEvent) : Prop :=
  Sound p events ∨ ¬ Passes globalId (laid p events)

/-- A successful attempt has read its packet where its events are trustworthy. -/
theorem recvAttempt_genuine_iff
    {globalId : UInt8}
    {fd : Int}
    {p after : Memory}
    {events : List ClientEvent}
    {ret : ComError}
    (run : Runs (recvAttempt globalId fd p) events (ret, after)) :
    (ret = .success → Genuine globalId events after) ↔
      Trustworthy globalId p events := by
  rw [Trustworthy, ← recvAttempt_laid run, recvAttempt_success_iff run]
  constructor
  · intro genuine
    by_cases passes : Passes globalId after
    · exact Or.inl ((genuine_iff_sound run passes).mp (genuine passes))
    · exact Or.inr passes
  · rintro (sound | refused) passes
    · exact (genuine_iff_sound run passes).mpr sound
    · exact absurd passes refused

/-! ## Sending a command and receiving data -/

/-- `communication_send` judges by one attempt into an arbitrary object. -/
theorem runs_communicationSend
    {globalId : UInt8}
    {fd : Int}
    {p : Memory}
    {events : List ClientEvent}
    {outcome : Outcome}
    (run : Runs (communicationSend globalId fd p) events outcome) :
    (outcome.code ≠ 0 ∧ events = []) ∨
      ∃ before response attempt ret after,
        events = before ++ .asked .uninitialised response :: attempt ∧
          Runs (recvAttempt globalId fd response) attempt (ret, after) ∧
          (outcome.code = 0 ↔
            ret = .success ∧ packetGetType after = ComType.ack.code) := by
  rw [communicationSend] at run
  by_cases refused :
      fd = 0 ∨ packetGetSize p = 0 ∨ (packetGetSize p).toNat > packetSize
  · rw [if_pos refused] at run
    obtain ⟨rfl, rfl⟩ := run
    exact Or.inl ⟨Int.one_ne_zero, rfl⟩
  · rw [if_neg refused] at run
    obtain ⟨before, _, _, rfl, _, receiving⟩ := Prog.yields_bind.mp run
    obtain ⟨_, _, response, rfl, asked, attempting⟩ :=
      Prog.yields_bind.mp receiving
    cases Prog.yields_query.mp asked
    obtain ⟨attempt, _, ⟨ret, after⟩, rfl, attempted, judging⟩ :=
      Prog.yields_bind.mp attempting
    dsimp only at judging
    obtain ⟨_, _, _, rfl, noted, returning⟩ :=
      Prog.yields_bind.mp judging
    cases Prog.yields_record.mp noted
    by_cases acknowledged :
        ret = .success ∧ packetGetType after = ComType.ack.code
    · rw [if_pos acknowledged] at returning
      obtain ⟨_, _, _, rfl, returned, rfl, rfl⟩ :=
        Prog.yields_bind.mp returning
      cases Prog.yields_record.mp returned
      refine
        Or.inr
          ⟨before, response, attempt, ret, after, ?_, attempted,
            iff_of_true rfl acknowledged⟩
      simp
    · rw [if_neg acknowledged] at returning
      obtain ⟨_, _, _, rfl, returned, rfl, rfl⟩ :=
        Prog.yields_bind.mp returning
      cases Prog.yields_record.mp returned
      refine
        Or.inr
          ⟨before, response, attempt, ret, after, ?_, attempted,
            iff_of_false Int.one_ne_zero acknowledged⟩
      simp

/-- `communication_recv` judges by one attempt into the given object. -/
theorem runs_communicationRecv
    {globalId : UInt8}
    {fd : Int}
    {p after : Memory}
    {events : List ClientEvent}
    {outcome : Outcome}
    (run : Runs (communicationRecv globalId fd p) events (outcome, after)) :
    (outcome.code ≠ 0 ∧ events = []) ∨
      ∃ response attempt answer ret,
        events = .asked .uninitialised response :: attempt ++ answer ∧
          Runs (recvAttempt globalId fd p) attempt (ret, after) ∧
          (outcome.code = 0 ↔ ret = .success) := by
  rw [communicationRecv] at run
  by_cases refused : fd = 0
  · rw [if_pos refused] at run
    obtain ⟨rfl, ended⟩ := run
    cases ended
    exact Or.inl ⟨Int.one_ne_zero, rfl⟩
  · rw [if_neg refused] at run
    obtain ⟨_, _, response, rfl, asked, attempting⟩ :=
      Prog.yields_bind.mp run
    cases Prog.yields_query.mp asked
    obtain ⟨attempt, _, ⟨ret, filled⟩, rfl, attempted, judging⟩ :=
      Prog.yields_bind.mp attempting
    dsimp only at judging
    obtain ⟨_, answer, _, rfl, noted, answering⟩ :=
      Prog.yields_bind.mp judging
    cases Prog.yields_record.mp noted
    have shape :
        [.asked .uninitialised response] ++ (attempt ++ ([] ++ answer)) =
          (.asked .uninitialised response :: attempt ++ answer :
            List ClientEvent) :=
      rfl
    rw [shape]
    cases ret with
    | success =>
        obtain ⟨_, _, _, rfl, _, rfl, ended⟩ :=
          Prog.yields_bind.mp answering
        cases ended
        exact
          Or.inr
            ⟨response, attempt, _, .success, rfl, attempted,
              iff_of_true rfl rfl⟩
    | idMismatch | corruptedChecksum =>
        obtain ⟨_, _, _, rfl, _, rfl, ended⟩ :=
          Prog.yields_bind.mp answering
        cases ended
        exact
          Or.inr
            ⟨response, attempt, _, _, rfl, attempted,
              iff_of_false Int.one_ne_zero ComError.noConfusion⟩
    | wrongType | tooBig | slaveNotFound =>
        obtain ⟨rfl, ended⟩ := answering
        cases ended
        exact
          Or.inr
            ⟨response, attempt, _, _, rfl, attempted,
              iff_of_false Int.one_ne_zero ComError.noConfusion⟩

/--
`communication_send` judges by one attempt, and reports a command as
acknowledged on a packet that it has read exactly where the events of that
attempt are trustworthy or leave something else than an acknowledgement.
-/
def SendJudged
    (globalId : UInt8)
    (fd : Int)
    (events : List ClientEvent)
    (outcome : Outcome) : Prop :=
  (outcome.code ≠ 0 ∧ events = []) ∨
    ∃ before response attempt ret after,
      events = before ++ .asked .uninitialised response :: attempt ∧
        Runs (recvAttempt globalId fd response) attempt (ret, after) ∧
        ((outcome.code = 0 →
            Genuine globalId attempt (laid response attempt)) ↔
          Trustworthy globalId response attempt ∨
            packetGetType (laid response attempt) ≠ ComType.ack.code)

/--
`communication_recv` judges by one attempt, and acknowledges a packet that it
has read exactly where the events of that attempt are trustworthy.
-/
def RecvJudged
    (globalId : UInt8)
    (fd : Int)
    (p : Memory)
    (events : List ClientEvent)
    (outcome : Outcome) : Prop :=
  (outcome.code ≠ 0 ∧ events = []) ∨
    ∃ response attempt answer ret after,
      events = .asked .uninitialised response :: attempt ++ answer ∧
        Runs (recvAttempt globalId fd p) attempt (ret, after) ∧
        ((outcome.code = 0 →
            Genuine globalId attempt (laid p attempt)) ↔
          Trustworthy globalId p attempt)

theorem communicationSend_judged
    {globalId : UInt8}
    {fd : Int}
    {p : Memory}
    {events : List ClientEvent}
    {outcome : Outcome}
    (run : Runs (communicationSend globalId fd p) events outcome) :
    SendJudged globalId fd events outcome := by
  rcases runs_communicationSend run with refused | judged
  · exact Or.inl refused
  · obtain ⟨before, response, attempt, ret, after, split, attempted,
      acknowledged⟩ := judged
    refine
      Or.inr
        ⟨before, response, attempt, ret, after, split, attempted, ?_⟩
    rw [acknowledged, ← recvAttempt_genuine_iff attempted,
      ← recvAttempt_laid attempted]
    constructor
    · intro genuine
      by_cases type : packetGetType after = ComType.ack.code
      · exact Or.inl fun succeeded => genuine ⟨succeeded, type⟩
      · exact Or.inr type
    · rintro (genuine | type) ⟨succeeded, acknowledgement⟩
      · exact genuine succeeded
      · exact absurd acknowledgement type

theorem communicationRecv_judged
    {globalId : UInt8}
    {fd : Int}
    {p after : Memory}
    {events : List ClientEvent}
    {outcome : Outcome}
    (run : Runs (communicationRecv globalId fd p) events (outcome, after)) :
    RecvJudged globalId fd p events outcome := by
  rcases runs_communicationRecv run with refused | judged
  · exact Or.inl refused
  · obtain ⟨response, attempt, answer, ret, split, attempted,
      acknowledged⟩ := judged
    refine
      Or.inr
        ⟨response, attempt, answer, ret, after, split, attempted, ?_⟩
    rw [acknowledged, ← recvAttempt_laid attempted]
    exact recvAttempt_genuine_iff attempted

/--
What is received is what was read: of an attempt, of a command that is reported
as acknowledged and of data that are acknowledged, exactly where the reads were
sound or what they left of the previous contents is refused.  The reads of a run
are calls of `read` that the loop of `serial_rx` makes.
-/
theorem reception_genuine_iff
    (globalId : UInt8)
    (fd : Int)
    (p : Memory)
    (events : List ClientEvent) :
    (∀ ret after,
      Runs (recvAttempt globalId fd p) events (ret, after) →
      ((ret = .success → Genuine globalId events after) ↔
        Trustworthy globalId p events)) ∧
    (∀ outcome,
      Runs (communicationSend globalId fd p) events outcome →
      SendJudged globalId fd events outcome) ∧
    (∀ outcome after,
      Runs (communicationRecv globalId fd p) events (outcome, after) →
      RecvJudged globalId fd p events outcome) ∧
    (∀ offset size code after,
      Runs (serialRx fd p offset size) events (code, after) →
      CalledFor fd p offset size events code after) :=
  ⟨fun _ _ run => recvAttempt_genuine_iff run,
    fun _ run => communicationSend_judged run,
    fun _ _ run => communicationRecv_judged run,
    fun _ _ _ _ run => serialRx_calls run⟩

/-- An acknowledgement of packet 5. -/
def ackBytes : List UInt8 :=
  packetImage 5 ComType.ack.code 0 []

/-- It arrives, the header first. -/
def ackReads : List ClientEvent :=
  [.asked (.isatty 3) true,
    .read 0 headerSize [some (ackBytes.take headerSize)],
    .asked (.isatty 3) true,
    .read headerSize 1 [some (ackBytes.drop headerSize)]]

/-- The object in which it has arrived. -/
def ackArrived : Memory :=
  (Memory.store (fun _ => 0) 0 (ackBytes.take headerSize)).store headerSize
    (ackBytes.drop headerSize)

theorem ackReads_run :
    Runs (recvAttempt 5 3 fun _ => 0) ackReads (.success, ackArrived) := by
  have header :=
    @Receives.through 3 (fun _ => 0) 0 headerSize (by decide)
      [some (ackBytes.take headerSize)] (ackBytes.take headerSize)
      ⟨.complete, by decide⟩
  have body :=
    @Receives.through 3
      (Memory.store (fun _ => 0) 0 (ackBytes.take headerSize)) headerSize 1
      (by decide) [some (ackBytes.drop headerSize)]
      (ackBytes.drop headerSize) ⟨.complete, by decide⟩
  exact runs_recvAttempt_matched header (by decide) body

theorem ackReads_genuine : Genuine 5 ackReads ackArrived := by
  have received := (reception_genuine_iff 5 3 (fun _ => 0) ackReads).1
  have sound : Sound (fun _ => 0) ackReads := by
    refine
      ⟨⟨headerSize, [some (ackBytes.take headerSize)], ?_, ?_⟩,
        Or.inr ⟨1, [some (ackBytes.drop headerSize)], ?_, ?_⟩⟩
    · exact List.mem_cons_of_mem _ List.mem_cons_self
    · decide
    · exact
        List.mem_cons_of_mem _
          (List.mem_cons_of_mem _
            (List.mem_cons_of_mem _ List.mem_cons_self))
    · decide
  exact (received _ _ ackReads_run).mpr (Or.inl sound) rfl

/-- The acknowledgement is left over from an earlier exchange. -/
def leftoverAck : Memory :=
  Memory.store (fun _ => 0) 0 ackBytes

/-- The line is gone: both reads fail at once. -/
def failedReads : List ClientEvent :=
  [.asked (.isatty 3) true, .read 0 headerSize [none],
    .asked (.isatty 3) true, .read headerSize 1 [none]]

theorem leftoverAck_accepted :
    Runs (recvAttempt 5 3 leftoverAck) failedReads
        (.success, leftoverAck) ∧
      ¬ Genuine 5 failedReads leftoverAck := by
  have failing :
      ∀ offset count,
        Arrives count [none] [] →
        Receives 3 leftoverAck offset count
          [.asked (.isatty 3) true, .read offset count [none]]
          (if 0 < count then -1 else count, leftoverAck) := by
    intro offset count arrived
    have through :=
      @Receives.through 3 leftoverAck offset count (by decide) _ _ arrived
    rwa [Memory.store_nil] at through
  have header := failing 0 headerSize ⟨.failed, rfl⟩
  have body := failing headerSize 1 ⟨.failed, rfl⟩
  constructor
  · exact runs_recvAttempt_matched header (by decide) body
  · intro genuine
    have delivered :=
      genuine.unfailed 0 headerSize [none]
        (List.mem_cons_of_mem _ (List.mem_cons_self))
    exact delivered (List.mem_singleton_self _)

end Ammc.Client
