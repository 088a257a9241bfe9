import Chip8.Proofs.Headless.Frames
import Chip8.Proofs.Machine.Gate
import Chip8.Proofs.Machine.WellFormed

/-!
The key that a headless run feeds to a waiting program. Only the host moves keys, so what is held
down during a frame is what the frame before it put down: `Session.Fed` keeps track of that from
frame to frame. `run_feeds_keys` says what it comes to for a key that exists, which ends every wait
within a frame, and for one that does not, which ends none.
-/

namespace Chip8

namespace Machine

variable {machine : Machine} {cycles : Int}

theorem iterate_step_keypad (machine : Machine) (steps : Nat) :
    (step^[steps] machine).keypad = machine.keypad := by
  refine Function.Iterate.rec (fun now : Machine => now.keypad = machine.keypad) rfl ?_ steps
  intro now same
  rw [step_keypad, same]

theorem WellFormed.iterate_step (wellFormed : machine.WellFormed) (steps : Nat) :
    (Machine.step^[steps] machine).WellFormed := by
  refine Function.Iterate.rec Machine.WellFormed wellFormed ?_ steps
  intro now kept
  exact kept.step

structure Halted (machine : Machine) : Prop where
  waiting : machine.waiting = true
  released : machine.keypad.lowest? = none
  status : machine.status = .inputHalt
  fault : machine.fault = machine.waitWord

theorem halted_run (halts : (machine.run cycles).1.status = .inputHalt) :
    (machine.run cycles).1.Halted := by
  obtain ⟨waiting, released, fault⟩ := run_of_halted halts
  exact ⟨waiting, released, halts, fault⟩

theorem Halted.run (halted : machine.Halted) (some : 1 ≤ cycles) :
    machine.run cycles = (machine, 0) := by
  rw [run_of_released halted.waiting halted.released some,
    step_of_released halted.waiting halted.released, ← halted.fault, ← halted.status, reported_self]

theorem Halted.tickTimers (halted : machine.Halted) : machine.tickTimers.Halted :=
  ⟨halted.waiting, halted.released, halted.status, halted.fault⟩

end Machine

namespace Headless

variable {config : Config} {image : Except ReadFailure (List UInt8)} {cycles : Int} {frame : Nat}
  {session next result : Session} {logger log : Log.Logger}

theorem machine_of_config {machine : Machine} (loaded : config.machine image = .ok machine) :
    ∃ rng bytes, machine = (Machine.create rng config.variant).copyImage bytes := by
  obtain ⟨created, seeded, filled⟩ := HostError.bind_eq_ok_iff.mp loaded
  unfold Machine.ofSeed at seeded
  split at seeded <;> cases seeded
  rename_i rng _
  cases image with
  | error failure => cases filled
  | ok bytes =>
    change (Machine.create rng config.variant).load bytes = .ok machine at filled
    by_cases fits : bytes.length ≤ programCapacity
    · rw [Machine.load_of_le fits] at filled
      cases filled
      exact ⟨rng, bytes, rfl⟩
    · rw [Machine.load_of_lt (Nat.lt_of_not_le fits)] at filled
      cases filled

namespace Session

variable {machine : Machine} {held? next? : Option Int}

structure Feeds (config : Config) (cyclesPerFrame : Int) (session next : Session) : Prop where
  machine : next.machine =
    changeKey (session.machine.run cyclesPerFrame).1.tickTimers session.heldKey? next.heldKey?
  heldKey : next.heldKey? =
    if (session.machine.run cyclesPerFrame).1.status = .inputHalt then config.haltKey else none
  cycles : next.cycles = session.cycles + (session.machine.run cyclesPerFrame).2

theorem feeds_of_frame (played : session.frame config cycles = .ok next) :
    Feeds config cycles session next := by
  obtain ⟨report, executed, returned⟩ := HostError.bind_eq_ok_iff.mp played
  obtain ⟨condition, reported, rfl⟩ := Machine.exists_of_executeCycles executed
  cases returned
  have halts := isHalt_iff reported
  refine ⟨rfl, ?_, rfl⟩
  simp only [← halts]

theorem changeKey_eq (machine : Machine) (held? next? : Option Int) :
    changeKey machine held? next? =
      { machine with keypad := (changeKey machine held? next?).keypad } := by
  cases held? <;> cases next? <;> rfl

theorem changeKey_some (machine : Machine) (held? : Option Int) (number : Int) :
    changeKey machine held? (some number) = (changeKey machine held? none).pressKey number := by
  cases held? <;> rfl

section Only

variable (only : ∀ key : Fin 16, machine.keypad.get key = true ↔ held? = some (key.val : Int))
include only

/-- If only the key held so far is down, then only the next one is down afterwards. -/
theorem get_changeKey (key : Fin 16) :
    (changeKey machine held? next?).keypad.get key = true ↔ next? = some (key.val : Int) := by
  have freed : (changeKey machine held? none).keypad.get key = false := by
    cases held? with
    | none =>
      change machine.keypad.get key = false
      simpa using only key
    | some number =>
      change (machine.keypad.put number false).get key = false
      rw [Keypad.get_put]
      split
      · rfl
      · rename_i other
        rw [← Bool.not_eq_true, only key, Option.some_inj]
        exact other
  cases next? with
  | none => simp [freed]
  | some number =>
    rw [changeKey_some]
    change ((changeKey machine held? none).keypad.put number true).get key = true ↔ _
    rw [Keypad.get_put, freed]
    simp

theorem changeKey_of_unnamed (held : ∀ key : Fin 16, held? ≠ some (key.val : Int))
    (unnamed : ∀ key : Fin 16, next? ≠ some (key.val : Int)) :
    changeKey machine held? next? = machine := by
  have keys : (changeKey machine held? next?).keypad = machine.keypad := by
    apply Keypad.ext_get
    intro key
    rw [Bool.eq_iff_iff, get_changeKey only key, only key]
    exact iff_of_false (unnamed key) (held key)
  rw [changeKey_eq, keys]

end Only

/-- What a session keeps from frame to frame. Only the key that was fed to the machine is down. -/
structure Fed (session : Session) : Prop where
  wellFormed : session.machine.WellFormed
  keypad (key : Fin 16) :
    session.machine.keypad.get key = true ↔ session.heldKey? = some (key.val : Int)

theorem fed_start (loaded : config.machine image = .ok machine) : (start machine).Fed := by
  obtain ⟨rng, bytes, rfl⟩ := machine_of_config loaded
  have fresh := Machine.wellFormed_powerOn rng Keypad.released config.variant
  constructor
  · exact ⟨fresh.stack, fresh.waitRegister, fresh.status, fresh.halted⟩
  · intro key
    exact iff_of_false (Bool.eq_false_iff.mp (Keypad.get_released key)) (Option.some_ne_none _).symm

theorem Fed.keypad_run (fed : session.Fed) (cycles : Int) (key : Fin 16) :
    (session.machine.run cycles).1.tickTimers.keypad.get key = true ↔
      session.heldKey? = some (key.val : Int) := by
  change (session.machine.run cycles).1.keypad.get key = true ↔ _
  rw [Machine.run_keypad]
  exact fed.keypad key

theorem Fed.play (fed : session.Fed) (played : session.frame config cycles = .ok next) :
    next.Fed := by
  have feeds := feeds_of_frame played
  have ran := fed.wellFormed.run cycles
  constructor
  · rw [feeds.machine, changeKey_eq]
    exact ⟨ran.stack, ran.waitRegister, ran.status, ran.halted⟩
  · intro key
    rw [feeds.machine]
    exact get_changeKey (fed.keypad_run cycles) key

/-- Without a key to feed, a machine that waits goes on waiting, and only its timers move. -/
theorem Fed.play_of_halted (fed : session.Fed)
    (unnamed : ∀ key : Fin 16, config.haltKey ≠ some (key.val : Int))
    (halts : (session.machine.run cycles).1.status = .inputHalt)
    (played : session.frame config cycles = .ok next) :
    next.machine = (session.machine.run cycles).1.tickTimers ∧ next.machine.Halted := by
  have feeds := feeds_of_frame played
  have halted := (Machine.halted_run halts).tickTimers
  have held (key : Fin 16) : session.heldKey? ≠ some (key.val : Int) := by
    rw [Ne, ← fed.keypad_run cycles key, Bool.not_eq_true]
    exact Keypad.lowest?_eq_none_iff.mp halted.released key
  have kept : next.machine = (session.machine.run cycles).1.tickTimers := by
    rw [feeds.machine, feeds.heldKey, if_pos halts]
    exact changeKey_of_unnamed (fed.keypad_run cycles) held unnamed
  exact ⟨kept, kept ▸ halted⟩

end Session

theorem fed_of_sessionBefore (reached : sessionBefore config image frame = .ok session) :
    session.Fed := by
  induction frame generalizing session with
  | zero =>
    obtain ⟨cycles, machine, -, loaded, start⟩ := sessionBefore_eq_ok_iff.mp reached
    cases start
    exact Session.fed_start loaded
  | succ frame ih =>
    obtain ⟨previous, cycles, before, -, played⟩ := sessionBefore_succ_eq_ok_iff.mp reached
    exact (ih before).play played

theorem heldKey?_sessionBefore (reached : sessionBefore config image frame = .ok session)
    {number : Int} :
    session.heldKey? = some number ↔
      config.haltKey = some number ∧
        ∃ previous, frame = previous + 1 ∧ EndsInHalt config image previous := by
  cases frame with
  | zero =>
    obtain ⟨cycles, machine, -, -, start⟩ := sessionBefore_eq_ok_iff.mp reached
    cases start
    simp [Session.start]
  | succ frame =>
    obtain ⟨previous, cycles, before, rate, played⟩ := sessionBefore_succ_eq_ok_iff.mp reached
    have halts := endsInHalt_iff before rate
    rw [(Session.feeds_of_frame played).heldKey]
    by_cases waits : EndsInHalt config image frame
    · simp [halts.mp waits, waits]
    · simp [mt halts.mpr waits, waits]

theorem get_keypad_sessionBefore (reached : sessionBefore config image frame = .ok session)
    (key : Fin 16) :
    session.machine.keypad.get key = true ↔
      config.haltKey = some (key.val : Int) ∧
        ∃ previous, frame = previous + 1 ∧ EndsInHalt config image previous :=
  ((fed_of_sessionBefore reached).keypad key).trans (heldKey?_sessionBefore reached)

section Answered

variable {k : Fin 16} (feeds : config.haltKey = some (k.val : Int))
include feeds

theorem get_keypad_of_haltKey (reached : sessionBefore config image frame = .ok session)
    (key : Fin 16) :
    session.machine.keypad.get key = true ↔
      key = k ∧ ∃ previous, frame = previous + 1 ∧ EndsInHalt config image previous := by
  have same : (k.val : Int) = key.val ↔ key = k := by
    rw [Int.natCast_inj, Fin.ext_iff, eq_comm]
  rw [get_keypad_sessionBefore reached, feeds, Option.some_inj, same]

/-- The key that the program waits for is down during the frame after the wait. -/
theorem not_endsInHalt_succ (halts : EndsInHalt config image frame) :
    ¬ EndsInHalt config image (frame + 1) := by
  rintro ⟨session, cycles, reached, -, waits⟩
  have down := (get_keypad_of_haltKey feeds reached k).mpr ⟨rfl, frame, rfl, halts⟩
  have released := (Machine.run_of_halted waits).2.1
  rw [Machine.run_keypad] at released
  exact absurd ((Keypad.lowest?_eq_none_iff.mp released k).symm.trans down) Bool.false_ne_true

theorem registers_of_completed (reached : sessionBefore config image frame = .ok session)
    {steps : Nat} {x : Register} (awaits : (Machine.step^[steps] session.machine).Awaits x)
    (completed : (Machine.step^[steps] session.machine).step.waiting = false) :
    (Machine.step^[steps] session.machine).step.registers =
      ((Machine.step^[steps] session.machine).setRegister x (UInt8.ofNat k)).registers := by
  obtain ⟨key, lowest, stored⟩ := awaits.exists_key completed
  have down := (Keypad.lowest?_eq_some_iff.mp lowest).1
  rw [Machine.iterate_step_keypad, get_keypad_of_haltKey feeds reached] at down
  rw [stored, down.1]

end Answered

theorem not_stopped_of_endsInHalt (halts : EndsInHalt config image frame)
    (reached : sessionBefore config image (frame + 1) = .ok next) : next.stopped = false := by
  obtain ⟨session, cycles, before, rate, played⟩ := sessionBefore_succ_eq_ok_iff.mp reached
  have follows := Session.follows_of_frame played
  have waits := (endsInHalt_iff before rate).mp halts
  rw [← Bool.not_eq_true, follows.stopped, Session.stops_iff follows.reported, waits]
  rintro (fatal | ⟨-, unknown⟩)
  · exact Bool.noConfusion fatal
  · exact Status.noConfusion unknown

section Unanswered

variable {later : Nat} (unnamed : ∀ key : Fin 16, config.haltKey ≠ some (key.val : Int))
  (halts : EndsInHalt config image frame)
include unnamed halts

theorem halted_of_endsInHalt (after : frame < later)
    (reached : sessionBefore config image later = .ok session) : session.machine.Halted := by
  -- A frame that starts with a machine at the gate ends in a key wait again, and no key is fed to it.
  induction later generalizing session with
  | zero => exact absurd after (Nat.not_lt_zero frame)
  | succ later ih =>
    obtain ⟨previous, cycles, before, rate, played⟩ := sessionBefore_succ_eq_ok_iff.mp reached
    have waits : (previous.machine.run cycles).1.status = .inputHalt := by
      rcases Nat.lt_succ_iff_lt_or_eq.mp after with earlier | rfl
      · have halted := ih earlier before
        rw [halted.run (one_le_cyclesPerFrame rate)]
        exact halted.status
      · exact (endsInHalt_iff before rate).mp halts
    exact ((fed_of_sessionBefore before).play_of_halted unnamed waits played).2

/-- A frame after one that ended in a key wait only lets the timers tick. -/
theorem frame_of_endsInHalt (after : frame < later)
    (reached : sessionBefore config image (later + 1) = .ok next) :
    EndsInHalt config image later ∧
      ∃ session, sessionBefore config image later = .ok session ∧
        next.cycles = session.cycles ∧ next.machine = session.machine.tickTimers := by
  obtain ⟨session, cycles, before, rate, played⟩ := sessionBefore_succ_eq_ok_iff.mp reached
  have halted := halted_of_endsInHalt unnamed halts after before
  have ran := halted.run (one_le_cyclesPerFrame rate)
  have waits : (session.machine.run cycles).1.status = .inputHalt := by
    rw [ran]
    exact halted.status
  have kept := ((fed_of_sessionBefore before).play_of_halted unnamed waits played).1
  have counted := (Session.feeds_of_frame played).cycles
  rw [ran] at kept counted
  exact ⟨(endsInHalt_iff before rate).mpr waits, session, before, counted, kept⟩

theorem frames_eq_of_endsInHalt (ran : run config image logger = .ok (result, log))
    (executed : frame < result.frames) : result.frames = config.frames := by
  obtain ⟨reached, -, few, last⟩ := run_eq_ok ran
  obtain ⟨previous, ends⟩ : ∃ previous, result.frames = previous + 1 := ⟨result.frames - 1, by omega⟩
  rw [ends] at reached
  have waits : EndsInHalt config image previous := by
    rcases Nat.lt_or_eq_of_le (show frame ≤ previous by omega) with later | rfl
    · exact (frame_of_endsInHalt unnamed halts later reached).1
    · exact halts
  have goes := not_stopped_of_endsInHalt waits reached
  by_contra fewer
  exact absurd (goes.symm.trans (last (by omega))) Bool.false_ne_true

end Unanswered

/-- A key that exists is down in a frame exactly if the frame before ended in a key wait. So the next
frame ends no wait, and every wait is completed with it. With any other setting a frame that ends in
a key wait is followed by frames that do the same, up to the number that was asked for. -/
theorem run_feeds_keys (ran : run config image logger = .ok (result, log)) :
    (∀ k : Fin 16, config.haltKey = some (k.val : Int) →
      (∀ frame ≤ result.frames, ∃ session, sessionBefore config image frame = .ok session ∧
        ∀ key, session.machine.keypad.get key = true ↔
          key = k ∧ ∃ previous, frame = previous + 1 ∧ EndsInHalt config image previous) ∧
      (∀ key, result.machine.keypad.get key = true ↔
        key = k ∧ ∃ last, result.frames = last + 1 ∧ EndsInHalt config image last) ∧
      (∀ frame, EndsInHalt config image frame → ¬ EndsInHalt config image (frame + 1)) ∧
      (∀ frame < result.frames, ∃ session cycles, sessionBefore config image frame = .ok session ∧
        config.cyclesPerFrame = .ok cycles ∧
        ∀ i < (session.machine.run cycles).2,
          let machine := Machine.step^[i] session.machine
          (machine.waiting = true → ∃ x, machine.Awaits x) ∧
          ∀ x, machine.Awaits x → machine.step.waiting = false →
            machine.step.registers = (machine.setRegister x (UInt8.ofNat k)).registers)) ∧
    ((∀ k : Fin 16, config.haltKey ≠ some (k.val : Int)) →
      ∀ frame < result.frames, EndsInHalt config image frame →
        result.frames = config.frames ∧
        ∀ later, frame < later → later < result.frames →
          EndsInHalt config image later ∧
          ∃ session next, sessionBefore config image later = .ok session ∧
            sessionBefore config image (later + 1) = .ok next ∧
            next.cycles = session.cycles ∧ next.machine = session.machine.tickTimers) := by
  constructor
  · intro k feeds
    refine ⟨?_, ?_, fun frame halts => not_endsInHalt_succ feeds halts, ?_⟩
    · intro frame within
      obtain ⟨session, reached⟩ := exists_sessionBefore ran within
      exact ⟨session, reached, get_keypad_of_haltKey feeds reached⟩
    · exact get_keypad_of_haltKey feeds (run_eq_ok ran).1
    · intro frame executed
      obtain ⟨session, reached⟩ := exists_sessionBefore ran (Nat.le_of_lt executed)
      obtain ⟨cycles, -, rate, -, -⟩ := sessionBefore_eq_ok_iff.mp reached
      refine ⟨session, cycles, reached, rate, ?_⟩
      intro i _
      refine ⟨?_, fun x awaits completed => registers_of_completed feeds reached awaits completed⟩
      intro waiting
      have small := ((fed_of_sessionBefore reached).wellFormed.iterate_step i).waitRegister
      rw [UInt8.le_iff_toNat_le] at small
      exact ⟨⟨_, Nat.lt_succ_of_le small⟩, .inl ⟨waiting, rfl⟩⟩
  · intro unnamed frame executed halts
    refine ⟨frames_eq_of_endsInHalt unnamed halts ran executed, ?_⟩
    intro later after before
    obtain ⟨next, reached⟩ := exists_sessionBefore ran (show later + 1 ≤ result.frames by omega)
    obtain ⟨waits, session, begins, counted, kept⟩ := frame_of_endsInHalt unnamed halts after reached
    exact ⟨waits, session, next, begins, reached, counted, kept⟩

def waitThenLoop : List UInt8 := [0xF0, 0x0A, 0x12, 0x02]

def feedFive : Config := { frames := 3, frequency := 60, haltKey := some 5 }

theorem endsInHalt_waitThenLoop : EndsInHalt feedFive (.ok waitThenLoop) 0 := by
  have word : ((Machine.create ⟨0, 0⟩ {}).copyImage waitThenLoop).nextWord =
      Word.ofBytes 0xF0 0x0A :=
    Machine.nextWord_of_image waitThenLoop 0 rfl rfl (by decide) (by decide)
  have fetched : ((Machine.create ⟨0, 0⟩ {}).copyImage waitThenLoop).fetched? =
      some (.awaitKey 0) := by
    rw [Machine.fetched?_eq_some_iff, word]
    exact ⟨rfl, by decide, by decide⟩
  have halts := Machine.step_of_awaitKey_of_released fetched (by decide)
  have reached : sessionBefore feedFive (.ok waitThenLoop) 0 =
      .ok (Session.start ((Machine.create ⟨0, 0⟩ {}).copyImage waitThenLoop)) := rfl
  have rate : feedFive.cyclesPerFrame = .ok (1 : Nat) := rfl
  have stopped : (Machine.step^[0 + 1]
      ((Machine.create ⟨0, 0⟩ {}).copyImage waitThenLoop)).status.consumed = false := by
    rw [Function.iterate_one, halts]
    rfl
  rw [endsInHalt_iff reached rate, Session.start,
    Machine.run_of_stopped (Machine.completes_zero _) Nat.one_pos stopped, Function.iterate_one,
    halts]

theorem run_feeds_five :
    ∃ result log,
      run feedFive (.ok waitThenLoop) (Log.Logger.create {} "CRITICAL" ⟨[]⟩) =
        .ok (result, log) ∧
      feedFive.haltKey = some ((5 : Fin 16).val : Int) ∧ 1 ≤ result.frames ∧
      EndsInHalt feedFive (.ok waitThenLoop) 0 ∧
      ∃ session, sessionBefore feedFive (.ok waitThenLoop) 1 = .ok session ∧
        ∀ key, session.machine.keypad.get key = true ↔
          key = 5 ∧ ∃ previous, 1 = previous + 1 ∧ EndsInHalt feedFive (.ok waitThenLoop) previous := by
  have rate : feedFive.cyclesPerFrame = .ok 1 := rfl
  have listed : requireListable (feedFive.settings 1) = .ok (feedFive.settings 1) :=
    requireListable_settings (by decide)
  have loaded : feedFive.machine (.ok waitThenLoop) =
      .ok ((Machine.create ⟨0, 0⟩ {}).copyImage waitThenLoop) := rfl
  obtain ⟨result, log, ran⟩ := exists_run rate (by decide) listed loaded rfl
    (Log.Logger.create {} "CRITICAL" ⟨[]⟩)
  have executed : 1 ≤ result.frames := frames_pos ran (by decide)
  have feeds : feedFive.haltKey = some ((5 : Fin 16).val : Int) := rfl
  obtain ⟨session, reached, keys⟩ := ((run_feeds_keys ran).1 5 feeds).1 1 executed
  exact ⟨result, log, ran, feeds, executed, endsInHalt_waitThenLoop, session, reached, keys⟩

end Headless

end Chip8
