import Chip8.Proofs.Machine.BatchReport

/-!
A headless run as a row of frames. `Session.after` plays frames one after another and never stops by
itself; `run_eq_ok` places the result of a run in that row: it is the session after the first frame
that stops the run, or after the last one that was asked for. `Config.Accepts` is what it takes to
get a result.
-/

namespace Chip8

namespace Headless

variable {config : Config} {image : Except ReadFailure (List UInt8)} {cycles : Int}

theorem one_le_cyclesPerFrame (rate : config.cyclesPerFrame = .ok cycles) : 1 ≤ cycles := by
  unfold Config.cyclesPerFrame at rate
  split at rate <;> cases rate
  exact Int.le_max_left _ _

namespace Session

/-- The session after a number of frames, whether or not the run would stop before them. -/
def after (config : Config) (cyclesPerFrame : Int) : Nat → Session → Except HostError Session
  | 0, session => .ok session
  | frames + 1, session => do
    let session ← session.frame config cyclesPerFrame
    after config cyclesPerFrame frames session

structure Follows (config : Config) (cyclesPerFrame : Int) (session next : Session) : Prop where
  frames : next.frames = session.frames + 1
  reported : Condition.statusOf next.condition =
    some (session.machine.run cyclesPerFrame).1.status
  stopped : next.stopped = stops config next.condition

variable {session next result : Session} {frames : Nat} {logger log : Log.Logger}

theorem exists_frame (fits : Word.isSigned32 cycles = true) (config : Config) (session : Session) :
    ∃ next, session.frame config cycles = .ok next := by
  obtain ⟨condition, -, executed⟩ := session.machine.executeCycles_of_fits fits
  exact ⟨_, HostError.bind_eq_ok_iff.mpr ⟨_, executed, rfl⟩⟩

theorem follows_of_frame (played : session.frame config cycles = .ok next) :
    Follows config cycles session next := by
  obtain ⟨report, executed, returned⟩ := HostError.bind_eq_ok_iff.mp played
  obtain ⟨condition, reported, rfl⟩ := Machine.exists_of_executeCycles executed
  cases returned
  exact ⟨rfl, reported, rfl⟩

theorem after_succ_eq_ok_iff_first :
    session.after config cycles (frames + 1) = .ok result ↔
      ∃ next, session.frame config cycles = .ok next ∧
        next.after config cycles frames = .ok result :=
  HostError.bind_eq_ok_iff

theorem after_succ_eq_ok_iff_last :
    session.after config cycles (frames + 1) = .ok result ↔
      ∃ last, session.after config cycles frames = .ok last ∧
        last.frame config cycles = .ok result := by
  induction frames generalizing session with
  | zero =>
    rw [after_succ_eq_ok_iff_first]
    constructor
    · rintro ⟨next, played, ends⟩
      cases ends
      exact ⟨session, rfl, played⟩
    · rintro ⟨last, begins, played⟩
      cases begins
      exact ⟨result, played, rfl⟩
  | succ frames ih =>
    rw [after_succ_eq_ok_iff_first]
    constructor
    · rintro ⟨next, first, rest⟩
      obtain ⟨last, middle, played⟩ := ih.mp rest
      exact ⟨last, after_succ_eq_ok_iff_first.mpr ⟨next, first, middle⟩, played⟩
    · rintro ⟨last, begins, played⟩
      obtain ⟨next, first, middle⟩ := after_succ_eq_ok_iff_first.mp begins
      exact ⟨next, first, ih.mpr ⟨last, middle, played⟩⟩

theorem after_frames (reached : session.after config cycles frames = .ok result) :
    result.frames = session.frames + frames := by
  induction frames generalizing result with
  | zero =>
    cases reached
    rfl
  | succ frames ih =>
    obtain ⟨last, before, played⟩ := after_succ_eq_ok_iff_last.mp reached
    rw [(follows_of_frame played).frames, ih before]
    rfl

/-- Frames are played until one of them stops the run, or to the last. -/
theorem play_eq_ok (played : play config cycles frames session logger = .ok (result, log)) :
    ∃ count ≤ frames, session.after config cycles count = .ok result ∧
      (∀ i < count, ∃ middle, session.after config cycles i = .ok middle ∧
        middle.stopped = false) ∧
      (count < frames → result.stopped = true) := by
  induction frames generalizing session logger with
  | zero =>
    cases played
    exact ⟨0, Nat.le_refl 0, rfl, fun i small => absurd small (Nat.not_lt_zero i),
      fun more => absurd more (Nat.lt_irrefl 0)⟩
  | succ frames ih =>
    cases stopped : session.stopped with
    | true =>
      rw [play, if_pos stopped] at played
      cases played
      exact ⟨0, Nat.zero_le _, rfl, fun i small => absurd small (Nat.not_lt_zero i),
        fun _ => stopped⟩
    | false =>
      rw [play, stopped, if_neg Bool.false_ne_true] at played
      obtain ⟨⟨next, logged⟩, advanced, rest⟩ := HostError.bind_eq_ok_iff.mp played
      obtain ⟨next', first, paired⟩ := HostError.bind_eq_ok_iff.mp advanced
      cases paired
      obtain ⟨count, few, reached, before, last⟩ := ih rest
      -- The frame played here comes before those of the induction hypothesis.
      refine ⟨count + 1, by omega, after_succ_eq_ok_iff_first.mpr ⟨next, first, reached⟩, ?_, ?_⟩
      · intro i small
        cases i with
        | zero => exact ⟨session, rfl, stopped⟩
        | succ i =>
          obtain ⟨middle, through, goes⟩ := before i (by omega)
          exact ⟨middle, after_succ_eq_ok_iff_first.mpr ⟨next, first, through⟩, goes⟩
      · intro more
        exact last (by omega)

theorem exists_play (fits : Word.isSigned32 cycles = true) (config : Config) (frames : Nat)
    (session : Session) (logger : Log.Logger) :
    ∃ result log, play config cycles frames session logger = .ok (result, log) := by
  induction frames generalizing session logger with
  | zero => exact ⟨session, logger, rfl⟩
  | succ frames ih =>
    rw [play]
    split
    · exact ⟨session, logger, rfl⟩
    · obtain ⟨next, first⟩ := exists_frame fits config session
      obtain ⟨result, log, rest⟩ := ih next (next.logFrame logger)
      have advanced : session.advance config cycles logger = .ok (next, next.logFrame logger) :=
        HostError.bind_eq_ok_iff.mpr ⟨next, first, rfl⟩
      exact ⟨result, log, HostError.bind_eq_ok_iff.mpr ⟨_, advanced, rest⟩⟩

end Session

def sessionBefore (config : Config) (image : Except ReadFailure (List UInt8)) (frame : Nat) :
    Except HostError Session := do
  let cyclesPerFrame ← config.cyclesPerFrame
  let machine ← config.machine image
  (Session.start machine).after config cyclesPerFrame frame

variable {frame : Nat} {session result : Session} {logger log : Log.Logger}

theorem sessionBefore_eq_ok_iff :
    sessionBefore config image frame = .ok session ↔
      ∃ cyclesPerFrame machine, config.cyclesPerFrame = .ok cyclesPerFrame ∧
        config.machine image = .ok machine ∧
        (Session.start machine).after config cyclesPerFrame frame = .ok session := by
  simp only [sessionBefore, HostError.bind_eq_ok_iff]
  constructor
  · rintro ⟨cyclesPerFrame, rate, machine, loaded, reached⟩
    exact ⟨cyclesPerFrame, machine, rate, loaded, reached⟩
  · rintro ⟨cyclesPerFrame, machine, rate, loaded, reached⟩
    exact ⟨cyclesPerFrame, rate, machine, loaded, reached⟩

theorem sessionBefore_succ_eq_ok_iff :
    sessionBefore config image (frame + 1) = .ok result ↔
      ∃ session cyclesPerFrame, sessionBefore config image frame = .ok session ∧
        config.cyclesPerFrame = .ok cyclesPerFrame ∧
        session.frame config cyclesPerFrame = .ok result := by
  simp only [sessionBefore_eq_ok_iff, Session.after_succ_eq_ok_iff_last]
  constructor
  · rintro ⟨cyclesPerFrame, machine, rate, loaded, session, reached, played⟩
    exact ⟨session, cyclesPerFrame, ⟨cyclesPerFrame, machine, rate, loaded, reached⟩, rate, played⟩
  · rintro ⟨session, cyclesPerFrame, before, rate, played⟩
    obtain ⟨cyclesPerFrame', machine, rate', loaded, reached⟩ := before
    rw [rate'] at rate
    cases rate
    exact ⟨cyclesPerFrame, machine, rate', loaded, session, reached, played⟩

def EndsInHalt (config : Config) (image : Except ReadFailure (List UInt8)) (frame : Nat) : Prop :=
  ∃ session cyclesPerFrame, sessionBefore config image frame = .ok session ∧
    config.cyclesPerFrame = .ok cyclesPerFrame ∧
    (session.machine.run cyclesPerFrame).1.status = .inputHalt

theorem endsInHalt_iff (reached : sessionBefore config image frame = .ok session)
    (rate : config.cyclesPerFrame = .ok cycles) :
    EndsInHalt config image frame ↔ (session.machine.run cycles).1.status = .inputHalt := by
  simp [EndsInHalt, reached, rate]

/-- The result of a run is the session after its frames. None but the last of them stopped it, and
there are fewer than were asked for only if the last one did. -/
theorem run_eq_ok (ran : run config image logger = .ok (result, log)) :
    sessionBefore config image result.frames = .ok result ∧
      (∀ i < result.frames, ∃ session, sessionBefore config image i = .ok session ∧
        session.stopped = false) ∧
      result.frames ≤ config.frames.toNat ∧
      (result.frames < config.frames.toNat → result.stopped = true) := by
  obtain ⟨cyclesPerFrame, rate, ran⟩ := HostError.bind_eq_ok_iff.mp ran
  obtain ⟨settings, listed, ran⟩ := HostError.bind_eq_ok_iff.mp ran
  obtain ⟨machine, loaded, ran⟩ := HostError.bind_eq_ok_iff.mp ran
  obtain ⟨frames, limited, ran⟩ := HostError.bind_eq_ok_iff.mp ran
  obtain ⟨⟨session, logged⟩, played, ended⟩ := HostError.bind_eq_ok_iff.mp ran
  cases ended
  obtain ⟨count, few, reached, before, last⟩ := Session.play_eq_ok played
  have counted : result.frames = count := by
    rw [Session.after_frames reached, Session.start, Nat.zero_add]
  have limit : frames = config.frames.toNat := by
    unfold Config.frameCount at limited
    split at limited <;> cases limited
    rfl
  rw [counted, ← limit]
  refine ⟨sessionBefore_eq_ok_iff.mpr ⟨cyclesPerFrame, machine, rate, loaded, reached⟩, ?_, few,
    last⟩
  intro i small
  obtain ⟨middle, through, goes⟩ := before i small
  exact ⟨middle, sessionBefore_eq_ok_iff.mpr ⟨cyclesPerFrame, machine, rate, loaded, through⟩, goes⟩

theorem frames_pos (ran : run config image logger = .ok (result, log))
    (asked : 0 < config.frames) : 0 < result.frames := by
  obtain ⟨reached, -, -, last⟩ := run_eq_ok ran
  apply Nat.pos_of_ne_zero
  intro none
  rw [none, sessionBefore_eq_ok_iff] at reached
  obtain ⟨cyclesPerFrame, machine, -, -, start⟩ := reached
  cases start
  exact Bool.noConfusion (last (by omega))

theorem exists_sessionBefore (ran : run config image logger = .ok (result, log))
    (within : frame ≤ result.frames) :
    ∃ session, sessionBefore config image frame = .ok session := by
  obtain ⟨reached, before, -⟩ := run_eq_ok ran
  rcases Nat.lt_or_eq_of_le within with earlier | rfl
  · obtain ⟨session, through, -⟩ := before frame earlier
    exact ⟨session, through⟩
  · exact ⟨result, reached⟩

theorem frames_eq_succ_iff (ran : run config image logger = .ok (result, log))
    (executed : frame < result.frames) :
    result.frames = frame + 1 ↔
      (∃ next, sessionBefore config image (frame + 1) = .ok next ∧ next.stopped = true) ∨
        config.frames = frame + 1 := by
  obtain ⟨reached, before, few, last⟩ := run_eq_ok ran
  constructor
  · intro ends
    rw [ends] at reached few last
    by_cases more : frame + 1 < config.frames.toNat
    · exact .inl ⟨result, reached, last more⟩
    · exact .inr (by omega)
  · rintro (⟨next, reached', stopped⟩ | asked)
    · by_cases more : frame + 1 < result.frames
      · obtain ⟨session, same, goes⟩ := before (frame + 1) more
        rw [reached'] at same
        cases same
        exact absurd (goes.symm.trans stopped) Bool.false_ne_true
      · omega
    · omega

theorem requireListable_of_listable {cyclesPerFrame : Int}
    (listable : ∀ number ∈ [config.frames, config.frequency, config.frameRate, config.seed,
      config.haltKey.getD 0, cyclesPerFrame], Text.isListable number = true) :
    requireListable (config.settings cyclesPerFrame) = .ok (config.settings cyclesPerFrame) := by
  refine if_pos ?_
  cases feeds : config.haltKey <;>
    simp_all [Config.settings, Log.Value.isListable]

theorem requireListable_settings {cyclesPerFrame : Int}
    (small : ∀ number ∈ [config.frames, config.frequency, config.frameRate, config.seed,
      config.haltKey.getD 0, cyclesPerFrame], number.natAbs < 0x10000000000000000) :
    requireListable (config.settings cyclesPerFrame) = .ok (config.settings cyclesPerFrame) :=
  requireListable_of_listable fun number member => Text.isListable_of_lt (small number member)

/-- A run fails only at its settings or at its image. -/
theorem exists_run {cyclesPerFrame : Int} {machine : Machine} {frames : Nat}
    {settings : List (String × Log.Value)} (rate : config.cyclesPerFrame = .ok cyclesPerFrame)
    (fits : Word.isSigned32 cyclesPerFrame = true)
    (listed : requireListable (config.settings cyclesPerFrame) = .ok settings)
    (loaded : config.machine image = .ok machine) (limited : config.frameCount = .ok frames)
    (logger : Log.Logger) : ∃ result log, run config image logger = .ok (result, log) := by
  obtain ⟨result, log, played⟩ := Session.exists_play fits config frames (Session.start machine)
    (logger.runStart settings)
  refine ⟨result, log.runEnd result.results, ?_⟩
  rw [run, HostError.bind_eq_ok_iff]
  refine ⟨cyclesPerFrame, rate, HostError.bind_eq_ok_iff.mpr ⟨settings, listed, ?_⟩⟩
  refine HostError.bind_eq_ok_iff.mpr ⟨machine, loaded, ?_⟩
  refine HostError.bind_eq_ok_iff.mpr ⟨frames, limited, ?_⟩
  exact HostError.bind_eq_ok_iff.mpr ⟨(result, log), played, rfl⟩

/-- Settings and an image that a run accepts, with the cycles that they give each frame. The log lists
every number of the settings, so none may be too long for it. -/
structure Config.Accepts (config : Config) (image : List UInt8) (cyclesPerFrame : Int) : Prop where
  image : image.length ≤ programCapacity
  rate : config.cyclesPerFrame = .ok cyclesPerFrame
  cycles : Word.isSigned32 cyclesPerFrame = true
  seed : -0x8000000000000000 ≤ config.seed ∧ config.seed < 0x8000000000000000
  frames : config.frames < 0x8000000000000000
  listable : ∀ number ∈ [config.frames, config.frequency, config.frameRate,
    config.haltKey.getD 0], Text.isListable number = true

theorem Config.Accepts.exists_run {image : List UInt8} (accepts : config.Accepts image cycles)
    (logger : Log.Logger) : ∃ result log, run config (.ok image) logger = .ok (result, log) := by
  have listed : requireListable (config.settings cycles) = .ok (config.settings cycles) := by
    apply requireListable_of_listable
    have bounds : -0x80000000 ≤ cycles ∧ cycles < 0x80000000 := of_decide_eq_true accepts.cycles
    have range := accepts.seed
    have seed : Text.isListable config.seed = true := Text.isListable_of_lt (by omega)
    have small : Text.isListable cycles = true := Text.isListable_of_lt (by omega)
    have given := accepts.listable
    simp only [List.mem_cons, List.not_mem_nil, or_false, forall_eq_or_imp, forall_eq] at given ⊢
    obtain ⟨frames, frequency, frameRate, key⟩ := given
    exact ⟨frames, frequency, frameRate, seed, key, small⟩
  have loaded : config.machine (.ok image) =
      .ok ((Machine.create ⟨0, UInt32.ofInt config.seed⟩ config.variant).reset.copyImage image) := by
    rw [Config.machine, Machine.ofSeed, RandomKey.ofSeed?, if_pos accepts.seed]
    exact Machine.load_of_le accepts.image
  exact Headless.exists_run accepts.rate accepts.cycles listed loaded (if_pos accepts.frames) logger

theorem run_of_long_haltKey {number : Int} (rate : config.cyclesPerFrame = .ok cycles)
    (key : config.haltKey = some number) (long : Text.isListable number = false)
    (logger : Log.Logger) : run config image logger = .error .numberTooLong := by
  have refused : requireListable (config.settings cycles) = .error .numberTooLong := by
    simp [requireListable, Config.settings, key, Log.Value.isListable, long]
  simp only [run, rate, refused, bind, Except.bind]

theorem run_of_endless_frames {settings : List (String × Log.Value)} {machine : Machine}
    (rate : config.cyclesPerFrame = .ok cycles)
    (listed : requireListable (config.settings cycles) = .ok settings)
    (loaded : config.machine image = .ok machine) (endless : 0x8000000000000000 ≤ config.frames)
    (logger : Log.Logger) : run config image logger = .error (.outOfRange config.frames) := by
  have refused : config.frameCount = .error (.outOfRange config.frames) :=
    if_neg (Int.not_lt.mpr endless)
  simp only [run, rate, listed, loaded, refused, bind, Except.bind]

end Headless

end Chip8
