import Halmos.Utils.Log

set_option autoImplicit false

/-! # The log in every interleaving

Whatever the order of the steps, the files hold the lines of the accepted entries in the order in
which these were accepted (`log_run`), what was accepted before the logger ended is not left behind
(`log_ended`), the logger ends when it is told to (`log_ends`), and it does not sleep over a queue
that somebody else was woken for, unless that is the monitor on its way to the next entry
(`log_sleeps`, `log_wakes`).
-/

namespace Halmos.Utils

/-- The entry that the logger has taken and not handled yet. -/
def LoggerPc.inHand : LoggerPc → List LogEntry
  | .writing entry => [entry]
  | _ => []

/-- The bytes that an entry adds to the file at `path`. -/
def Handled.bytes (path : List UInt8) (h : Handled) : List UInt8 :=
  if h.opened = true ∧ logFilename h.clock h.entry.type = path then logLine h.clock h.entry else []

/-- Every accepted entry was handled, is in the logger's hand or is in the ring, in this order, and
the files are what the handled entries made of those there were. -/
structure LogSystem.Consistent (files : List UInt8 → List UInt8) (s : LogSystem) : Prop where
  accepted : s.accepted = s.handled.map Handled.entry ++ s.logger.inHand ++ s.queue.toList
  files : ∀ path, s.files path = files path ++ s.handled.flatMap (Handled.bytes path)

/-- What a wake-up leaves alone. -/
structure LogSystem.Woke (s s' : LogSystem) : Prop where
  queue : s'.queue = s.queue
  keepRunning : s'.keepRunning = s.keepRunning
  telemetryEnabled : s'.telemetryEnabled = s.telemetryEnabled
  files : s'.files = s.files
  accepted : s'.accepted = s.accepted
  handled : s'.handled = s.handled
  logger : s'.logger = s.logger ∨ s.logger = .waiting ∧ s'.logger = .locking
  monitor : s'.monitor = s.monitor ∨ s.monitor = .waiting ∧ s'.monitor = .testing

/-- What any step leaves alone that is not the logger's own and not the stop. -/
structure LogSystem.Grew (s s' : LogSystem) : Prop where
  keepRunning : s'.keepRunning = s.keepRunning
  telemetryEnabled : s'.telemetryEnabled = s.telemetryEnabled
  handled : s'.handled = s.handled
  files : s'.files = s.files
  le_count : s.queue.count ≤ s'.queue.count
  count_le : s'.queue.count ≤ s.queue.count + 1
  logger : s'.logger = s.logger ∨ s.logger = .waiting ∧ s'.logger = .locking
  absent : s.monitor = .absent → s'.monitor = .absent

section Steps

variable {s s' : LogSystem} {files : List UInt8 → List UInt8}

/-! ## Waking up -/

theorem LogSystem.Woke.refl (s : LogSystem) : s.Woke s :=
  ⟨rfl, rfl, rfl, rfl, rfl, rfl, Or.inl rfl, Or.inl rfl⟩

theorem woke_wakeLogger (s : LogSystem) : s.Woke s.wakeLogger := by
  unfold LogSystem.wakeLogger
  split
  · next h => exact ⟨rfl, rfl, rfl, rfl, rfl, rfl, Or.inr ⟨h, rfl⟩, Or.inl rfl⟩
  · exact LogSystem.Woke.refl s

theorem woke_wakeMonitor (s : LogSystem) : s.Woke s.wakeMonitor := by
  unfold LogSystem.wakeMonitor
  split
  · next h => exact ⟨rfl, rfl, rfl, rfl, rfl, rfl, Or.inl rfl, Or.inr ⟨h, rfl⟩⟩
  · exact LogSystem.Woke.refl s

theorem LogSystem.Woke.trans {s'' : LogSystem} (h : s.Woke s') (h' : s'.Woke s'') :
    s.Woke s'' where
  queue := h'.queue.trans h.queue
  keepRunning := h'.keepRunning.trans h.keepRunning
  telemetryEnabled := h'.telemetryEnabled.trans h.telemetryEnabled
  files := h'.files.trans h.files
  accepted := h'.accepted.trans h.accepted
  handled := h'.handled.trans h.handled
  logger := by
    rcases h'.logger with heq | ⟨hwait, hlock⟩
    · rw [heq]
      exact h.logger
    · rcases h.logger with heq | ⟨hwait', hlock'⟩
      · exact Or.inr ⟨heq ▸ hwait, hlock⟩
      · exact Or.inr ⟨hwait', hlock⟩
  monitor := by
    rcases h'.monitor with heq | ⟨hwait, htest⟩
    · rw [heq]
      exact h.monitor
    · rcases h.monitor with heq | ⟨hwait', htest'⟩
      · exact Or.inr ⟨heq ▸ hwait, htest⟩
      · exact Or.inr ⟨hwait', htest⟩

theorem woke_both (s : LogSystem) : s.Woke s.wakeLogger.wakeMonitor :=
  (woke_wakeLogger s).trans (woke_wakeMonitor s.wakeLogger)

theorem woke_signal (s : LogSystem) (woken : Woken) : s.Woke (s.signal woken) := by
  unfold LogSystem.signal
  split
  · cases woken with
    | logger => exact woke_wakeLogger s
    | monitor => exact woke_wakeMonitor s
    | both => exact woke_both s
  · exact woke_both s

theorem LogSystem.Woke.inHand_eq (h : s.Woke s') : s'.logger.inHand = s.logger.inHand := by
  rcases h.logger with heq | ⟨hwait, hlock⟩
  · rw [heq]
  · rw [hwait, hlock]
    rfl

theorem wakeLogger_awake (s : LogSystem) : s.wakeLogger.logger ≠ .waiting := by
  unfold LogSystem.wakeLogger
  split
  · exact fun h => by cases h
  · next h => exact h

theorem wakeBoth_awake (s : LogSystem) : s.wakeLogger.wakeMonitor.logger ≠ .waiting := by
  intro h
  rcases (woke_wakeMonitor s.wakeLogger).logger with heq | ⟨-, hlock⟩
  · exact wakeLogger_awake s (heq ▸ h)
  · rw [h] at hlock
    cases hlock

/-- A signal that does not wake the logger out of its wait woke the monitor out of its own. -/
theorem signal_sleeping {woken : Woken} (h : (s.signal woken).logger = .waiting) :
    s.logger = .waiting ∧ s.monitor = .waiting ∧ (s.signal woken).monitor = .testing := by
  unfold LogSystem.signal at h ⊢
  split
  · next hwait =>
      rw [if_pos hwait] at h
      cases woken with
      | logger => exact absurd h (wakeLogger_awake s)
      | both => exact absurd h (wakeBoth_awake s)
      | monitor =>
          refine ⟨hwait.1, hwait.2, ?_⟩
          show s.wakeMonitor.monitor = .testing
          rw [LogSystem.wakeMonitor, if_pos hwait.2]
  · next hwait =>
      rw [if_neg hwait] at h
      exact absurd h (wakeBoth_awake s)

/-! ## The order of the entries -/

theorem LogSystem.Consistent.woke (h : s.Consistent files) (hw : s.Woke s') :
    s'.Consistent files where
  accepted := by rw [hw.accepted, hw.handled, hw.inHand_eq, hw.queue, h.accepted]
  files path := by rw [hw.files, hw.handled, h.files path]

/-- Where the monitor is does not matter to the entries. -/
theorem LogSystem.Consistent.monitor (h : s.Consistent files) (pc : MonitorPc) :
    LogSystem.Consistent files { s with monitor := pc } := ⟨h.accepted, h.files⟩

theorem consistent_enqueueLog (h : s.Consistent files) (type : LogType)
    (message : Option (List UInt8)) (woken : Woken) :
    (s.enqueueLog type message woken).Consistent files := by
  unfold LogSystem.enqueueLog
  split
  · next hroom =>
      refine LogSystem.Consistent.woke ?_ (woke_signal _ woken)
      refine ⟨?_, h.files⟩
      show s.accepted ++ _ = _ ++ (s.queue.put _ hroom).toList
      rw [RingBuffer.toList_put, h.accepted, List.append_assoc]
  · exact h

theorem consistent_loggerSection (h : s.Consistent files) (hpc : s.logger.inHand = []) :
    s.loggerSection.Consistent files := by
  have hkept : s.accepted = s.handled.map Handled.entry ++ [] ++ s.queue.toList := by
    rw [h.accepted, hpc]
  unfold LogSystem.loggerSection
  split
  · next hsome =>
      refine ⟨?_, h.files⟩
      show s.accepted = _ ++ [s.queue.first] ++ (s.queue.drop hsome).toList
      rw [hkept, s.queue.toList_eq_cons hsome, List.append_nil, List.append_cons]
  · split
    · exact ⟨hkept, h.files⟩
    · exact ⟨hkept, h.files⟩

theorem consistent_writeFile {entry : LogEntry} (h : s.Consistent files)
    (hpc : s.logger = .writing entry) (clock : LogClock) (opened : Bool) :
    (s.writeFile entry clock opened).Consistent files := by
  constructor
  · show s.accepted = (s.handled ++ [Handled.mk entry clock opened]).map Handled.entry ++ [] ++ _
    rw [h.accepted, hpc, List.map_append, List.append_nil]
    rfl
  · intro path
    show (if opened = true then
        Function.update s.files (logFilename clock entry.type)
          (s.files (logFilename clock entry.type) ++ logLine clock entry)
      else s.files) path
        = files path ++ (s.handled ++ [Handled.mk entry clock opened]).flatMap (Handled.bytes path)
    rw [List.flatMap_append, List.flatMap_singleton, ← List.append_assoc, ← h.files path,
      Handled.bytes]
    by_cases hopened : opened = true
    · by_cases hpath : logFilename clock entry.type = path
      · rw [if_pos hopened, if_pos ⟨hopened, hpath⟩, ← hpath, Function.update_self]
      · rw [if_pos hopened, if_neg (fun hboth => hpath hboth.2), List.append_nil,
          Function.update_of_ne (Ne.symm hpath)]
    · rw [if_neg hopened, if_neg (fun hboth => hopened hboth.1), List.append_nil]

theorem consistent_step (h : s.Consistent files) (i : LogStep) : (s.step i).Consistent files := by
  cases i with
  | enqueue type message woken => exact consistent_enqueueLog h type message woken
  | logger clock opened =>
      show (s.loggerStep clock opened).Consistent files
      unfold LogSystem.loggerStep
      split
      · next hpc => exact consistent_loggerSection h (by rw [hpc]; rfl)
      · exact h
      · next entry hpc => exact consistent_writeFile h hpc clock opened
      · exact h
  | monitor report woken =>
      show (s.monitorStep report woken).Consistent files
      unfold LogSystem.monitorStep
      split
      · exact h
      · exact consistent_enqueueLog (h.monitor .testing) _ _ _
      · exact h.monitor _
      · split
        · exact consistent_enqueueLog (h.monitor .locking) _ _ _
        · exact h.monitor .locking
      · exact h.monitor .waiting
      · exact h
      · exact h
  | wakeLogger => exact h.woke (woke_wakeLogger s)
  | wakeMonitor => exact h.woke (woke_wakeMonitor s)
  | stop =>
      have hstopped : LogSystem.Consistent files { s with keepRunning := false } :=
        ⟨h.accepted, h.files⟩
      exact hstopped.woke (woke_both _)

/-! ## Sleeping -/

/-- The logger sleeps only while the server runs, and over one entry at most: the monitor, which was
woken for it, has not put its own next to it yet. -/
structure LogSystem.Wakeful (s : LogSystem) : Prop where
  sleeps : s.logger = .waiting → s.keepRunning = true ∧
    (s.queue.count = 0 ∨
      s.queue.count = 1 ∧ (s.monitor = .testing ∨ s.monitor = .reporting))
  ended : s.logger = .ended → s.keepRunning = false
  created : s.monitor ≠ .absent → s.telemetryEnabled = true

theorem enqueueLog_full (h : s.queue.count = maxLogQueue) (type : LogType)
    (message : Option (List UInt8)) (woken : Woken) : s.enqueueLog type message woken = s :=
  dif_neg (by omega)

/-- An entry that does not wake the logger woke the monitor. -/
theorem enqueueLog_sleeping {type : LogType} {message : Option (List UInt8)} {woken : Woken}
    (hroom : s.queue.count < maxLogQueue)
    (h : (s.enqueueLog type message woken).logger = .waiting) :
    s.logger = .waiting ∧ s.monitor = .waiting
      ∧ (s.enqueueLog type message woken).monitor = .testing := by
  unfold LogSystem.enqueueLog at h ⊢
  rw [dif_pos hroom] at h ⊢
  exact signal_sleeping h

theorem LogSystem.Woke.grew (h : s.Woke s') : s.Grew s' where
  keepRunning := h.keepRunning
  telemetryEnabled := h.telemetryEnabled
  handled := h.handled
  files := h.files
  le_count := by rw [h.queue]
  count_le := by
    rw [h.queue]
    exact Nat.le_succ s.queue.count
  logger := h.logger
  absent habsent := by
    rcases h.monitor with heq | ⟨hwait, -⟩
    · exact heq.trans habsent
    · rw [habsent] at hwait
      cases hwait

theorem LogSystem.Grew.refl (s : LogSystem) : s.Grew s := (LogSystem.Woke.refl s).grew

theorem grew_enqueueLog (s : LogSystem) (type : LogType) (message : Option (List UInt8))
    (woken : Woken) : s.Grew (s.enqueueLog type message woken) := by
  unfold LogSystem.enqueueLog
  split
  · next hroom =>
      have hw := woke_signal
        { s with
          queue := s.queue.put (fillEntry message type) hroom
          accepted := s.accepted ++ [fillEntry message type (s.queue.entries.get s.queue.last)] }
        woken
      refine { hw.grew with le_count := ?_, count_le := ?_ }
      · rw [hw.queue]
        exact Nat.le_succ s.queue.count
      · rw [hw.queue]
        exact Nat.le_refl (s.queue.count + 1)
  · exact LogSystem.Grew.refl s

/-- The monitor's steps, its own position apart. -/
theorem grew_monitorStep (s : LogSystem) (report : List UInt8) (woken : Woken) :
    s.Grew (s.monitorStep report woken) := by
  have hmoved (pc : MonitorPc) (hpc : s.monitor ≠ .absent) : s.Grew { s with monitor := pc } :=
    { LogSystem.Grew.refl s with absent := fun habsent => absurd habsent hpc }
  have hput (pc : MonitorPc) (hpc : s.monitor ≠ .absent) (type : LogType)
      (message : List UInt8) :
      s.Grew (LogSystem.enqueueLog { s with monitor := pc } type (some message) woken) :=
    { grew_enqueueLog { s with monitor := pc } type (some message) woken with
      absent := fun habsent => absurd habsent hpc }
  unfold LogSystem.monitorStep
  split
  · exact LogSystem.Grew.refl s
  · next hpc => exact hput .testing (by rw [hpc]; decide) _ _
  · next hpc => exact hmoved _ (by rw [hpc]; decide)
  · next hpc =>
      split
      · exact hput .locking (by rw [hpc]; decide) _ _
      · exact hmoved _ (by rw [hpc]; decide)
  · next hpc => exact hmoved _ (by rw [hpc]; decide)
  · exact LogSystem.Grew.refl s
  · exact LogSystem.Grew.refl s

theorem LogSystem.Grew.ended_iff (h : s.Grew s') : s'.logger = .ended ↔ s.logger = .ended := by
  rcases h.logger with heq | ⟨hwait, hlock⟩
  · rw [heq]
  · rw [hwait, hlock]
    decide

/-- What keeps the first clause keeps the others. -/
theorem LogSystem.Wakeful.grew (h : s.Wakeful) (hg : s.Grew s')
    (hsleeps : s'.logger = .waiting → s'.keepRunning = true ∧
      (s'.queue.count = 0 ∨
        s'.queue.count = 1 ∧ (s'.monitor = .testing ∨ s'.monitor = .reporting))) :
    s'.Wakeful where
  sleeps := hsleeps
  ended hended := hg.keepRunning.trans (h.ended (hg.ended_iff.mp hended))
  created hpresent :=
    hg.telemetryEnabled.trans (h.created fun habsent => hpresent (hg.absent habsent))

theorem LogSystem.Grew.was_waiting (h : s.Grew s') (hwait : s'.logger = .waiting) :
    s.logger = .waiting := by
  rcases h.logger with heq | ⟨hwait', -⟩
  · rw [← heq]
    exact hwait
  · exact hwait'

theorem wakeful_wakeMonitor (h : s.Wakeful) : s.wakeMonitor.Wakeful := by
  have hw := woke_wakeMonitor s
  refine h.grew hw.grew fun hwait => ?_
  obtain ⟨hrun, hcount⟩ := h.sleeps (hw.grew.was_waiting hwait)
  rw [hw.keepRunning, hw.queue]
  refine ⟨hrun, hcount.imp_right fun hone => ⟨hone.1, ?_⟩⟩
  rcases hw.monitor with heq | ⟨-, htest⟩
  · rw [heq]
    exact hone.2
  · exact Or.inl htest

/-- A monitor that waits, or is about to, leaves no entry to a sleeping logger. -/
theorem LogSystem.Wakeful.count_eq_zero (h : s.Wakeful) (hwait : s.logger = .waiting)
    (htesting : s.monitor ≠ .testing) (hreporting : s.monitor ≠ .reporting) :
    s.queue.count = 0 := by
  obtain ⟨-, hzero | ⟨-, htest | hreport⟩⟩ := h.sleeps hwait
  · exact hzero
  · exact absurd htest htesting
  · exact absurd hreport hreporting

theorem wakeful_enqueueLog (h : s.Wakeful) (type : LogType) (message : Option (List UInt8))
    (woken : Woken) : (s.enqueueLog type message woken).Wakeful := by
  by_cases hroom : s.queue.count < maxLogQueue
  · have hg := grew_enqueueLog s type message woken
    refine h.grew hg fun hwait => ?_
    obtain ⟨hslept, hwaits, htest⟩ := enqueueLog_sleeping hroom hwait
    refine ⟨hg.keepRunning.trans (h.sleeps hslept).1, ?_⟩
    have hzero : s.queue.count = 0 :=
      h.count_eq_zero hslept (by rw [hwaits]; decide) (by rw [hwaits]; decide)
    have hle := hg.count_le
    rcases Nat.eq_zero_or_pos (s.enqueueLog type message woken).queue.count with h0 | hpos
    · exact Or.inl h0
    · exact Or.inr ⟨by omega, Or.inl htest⟩
  · rw [enqueueLog_full (Nat.le_antisymm s.queue.count_le (Nat.le_of_not_lt hroom))]
    exact h

/-- The monitor goes on: it may leave a logger that sleeps over an entry only on its way to the
next one. -/
theorem LogSystem.Wakeful.moved (h : s.Wakeful) (hcreated : s.monitor ≠ .absent) {pc : MonitorPc}
    (hpc : s.logger = .waiting → s.queue.count = 0 ∨ pc = .testing ∨ pc = .reporting) :
    LogSystem.Wakeful { s with monitor := pc } where
  sleeps hwait := by
    obtain ⟨hrun, hcount⟩ := h.sleeps hwait
    refine ⟨hrun, ?_⟩
    rcases hcount with hzero | ⟨hone, -⟩
    · exact Or.inl hzero
    · rcases hpc hwait with hzero | hway
      · exact Or.inl hzero
      · exact Or.inr ⟨hone, hway⟩
  ended := h.ended
  created _ := h.created hcreated

/-- The monitor's report wakes the logger. -/
theorem wakeful_report (h : s.Wakeful) (hpc : s.monitor = .reporting) (report : List UInt8)
    (woken : Woken) :
    (LogSystem.enqueueLog { s with monitor := .locking } .metrics (some report) woken).Wakeful
      ∧ (LogSystem.enqueueLog { s with monitor := .locking } .metrics (some report) woken).logger
        ≠ .waiting := by
  have hpresent : s.monitor ≠ .absent := by rw [hpc]; decide
  by_cases hroom : s.queue.count < maxLogQueue
  · have hg := grew_enqueueLog { s with monitor := .locking } .metrics (some report) woken
    have hawake : (LogSystem.enqueueLog { s with monitor := .locking } .metrics (some report)
        woken).logger ≠ .waiting := by
      intro hwait
      obtain ⟨-, hwaits, -⟩ :=
        enqueueLog_sleeping (s := { s with monitor := .locking }) hroom hwait
      cases hwaits
    refine ⟨⟨fun hwait => absurd hwait hawake, fun hended => ?_, fun _ => ?_⟩, hawake⟩
    · exact hg.keepRunning.trans (h.ended (hg.ended_iff.mp hended))
    · exact hg.telemetryEnabled.trans (h.created hpresent)
  · have hfull : s.queue.count = maxLogQueue :=
      Nat.le_antisymm s.queue.count_le (Nat.le_of_not_lt hroom)
    have hawake : s.logger ≠ .waiting := by
      intro hwait
      obtain ⟨-, hzero | ⟨hone, -⟩⟩ := h.sleeps hwait
      · rw [hfull] at hzero
        cases hzero
      · rw [hfull] at hone
        cases hone
    rw [enqueueLog_full (s := { s with monitor := .locking }) hfull]
    exact ⟨h.moved hpresent fun hwait => absurd hwait hawake, hawake⟩

theorem wakeful_monitorStep (h : s.Wakeful) (report : List UInt8) (woken : Woken) :
    (s.monitorStep report woken).Wakeful := by
  unfold LogSystem.monitorStep
  split
  · exact h
  · next hpc =>
      apply wakeful_enqueueLog
      exact h.moved (by rw [hpc]; decide) fun _ => Or.inr (Or.inl rfl)
  · next hpc =>
      refine h.moved (by rw [hpc]; decide) fun hwait => Or.inr (Or.inr ?_)
      rw [if_pos (h.sleeps hwait).1]
  · next hpc =>
      rw [if_pos (h.created (by rw [hpc]; decide))]
      exact (wakeful_report h hpc report woken).1
  · next hpc =>
      refine h.moved (by rw [hpc]; decide) fun hwait => Or.inl ?_
      exact h.count_eq_zero hwait (by rw [hpc]; decide) (by rw [hpc]; decide)
  · exact h
  · exact h

theorem wakeful_loggerStep (h : s.Wakeful) (clock : LogClock) (opened : Bool) :
    (s.loggerStep clock opened).Wakeful := by
  unfold LogSystem.loggerStep
  split
  · unfold LogSystem.loggerSection
    split
    · exact ⟨fun hno => (by cases hno), fun hno => (by cases hno), h.created⟩
    · next hempty =>
        split
        · next hrun =>
            refine ⟨fun _ => ⟨hrun, Or.inl ?_⟩, fun hno => (by cases hno), h.created⟩
            exact Nat.eq_zero_of_not_pos hempty
        · next hstopped =>
            exact ⟨fun hno => (by cases hno), fun _ => Bool.eq_false_of_not_eq_true hstopped,
              h.created⟩
  · exact h
  · exact ⟨fun hno => (by cases hno), fun hno => (by cases hno), h.created⟩
  · exact h

theorem wakeful_step (h : s.Wakeful) (i : LogStep) : (s.step i).Wakeful := by
  cases i with
  | enqueue type message woken => exact wakeful_enqueueLog h type message woken
  | logger clock opened => exact wakeful_loggerStep h clock opened
  | monitor report woken => exact wakeful_monitorStep h report woken
  | wakeLogger =>
      exact h.grew (woke_wakeLogger s).grew fun hwait => absurd hwait (wakeLogger_awake s)
  | wakeMonitor => exact wakeful_wakeMonitor h
  | stop =>
      have hstopped : LogSystem.Grew { s with keepRunning := false } (s.step .stop) :=
        (woke_both { s with keepRunning := false }).grew
      have hawake : (s.step .stop).logger ≠ .waiting :=
        wakeBoth_awake { s with keepRunning := false }
      refine ⟨fun hwait => absurd hwait hawake, fun _ => hstopped.keepRunning, fun hpresent => ?_⟩
      exact hstopped.telemetryEnabled.trans
        (h.created fun habsent => hpresent (hstopped.absent habsent))

theorem wakeful_start (telemetryEnabled created : Bool) (files : List UInt8 → List UInt8) :
    (startThreadLogger telemetryEnabled created files).Wakeful := by
  refine ⟨fun hno => (by cases hno), fun hno => (by cases hno), fun habsent => ?_⟩
  by_contra hdisabled
  apply habsent
  show (if telemetryEnabled = true ∧ created = true then MonitorPc.starting else .absent) = _
  rw [if_neg fun hboth => hdisabled hboth.1]

theorem consistent_start (telemetryEnabled created : Bool) (files : List UInt8 → List UInt8) :
    (startThreadLogger telemetryEnabled created files).Consistent files := by
  refine ⟨rfl, fun path => ?_⟩
  show files path = files path ++ []
  rw [List.append_nil]

/-! ## Coming to the end -/

/-- The steps that the logger has left with the entry in its hand, and to find the ring empty. -/
def LoggerPc.left : LoggerPc → Nat
  | .locking => 1
  | .waiting => 1
  | .writing _ => 2
  | .ended => 0

/-- The steps that the logger has left while no entry comes in. -/
def LogSystem.work (s : LogSystem) : Nat := 2 * s.queue.count + s.logger.left

/-- A step of the logger. -/
def LogStep.isLogger : LogStep → Bool
  | .logger _ _ => true
  | _ => false

/-- A step that may put an entry into the ring. -/
def LogStep.mayEnqueue : LogStep → Bool
  | .enqueue _ _ _ => true
  | .monitor _ _ => true
  | _ => false

theorem LoggerPc.left_le (pc : LoggerPc) : pc.left ≤ 2 := by
  cases pc <;> simp [LoggerPc.left]

theorem LogSystem.Grew.work_le (h : s.Grew s') : s'.work ≤ s.work + 2 := by
  have hle := h.count_le
  have hleft : s'.logger.left = s.logger.left := by
    rcases h.logger with heq | ⟨hwait, hlock⟩
    · rw [heq]
    · rw [hwait, hlock]
      rfl
  unfold LogSystem.work
  omega

theorem LogSystem.Woke.work_eq (h : s.Woke s') : s'.work = s.work := by
  unfold LogSystem.work
  rw [h.queue]
  rcases h.logger with heq | ⟨hwait, hlock⟩
  · rw [heq]
  · rw [hwait, hlock]
    rfl

theorem keepRunning_loggerStep (s : LogSystem) (clock : LogClock) (opened : Bool) :
    (s.loggerStep clock opened).keepRunning = s.keepRunning := by
  unfold LogSystem.loggerStep
  split
  · unfold LogSystem.loggerSection
    split
    · rfl
    · split <;> rfl
  · rfl
  · rfl
  · rfl

/-- The logger of a server that stops has ended, or its step is progress. -/
theorem loggerStep_work (h : s.Wakeful) (hstopped : s.keepRunning = false) (clock : LogClock)
    (opened : Bool) :
    s.logger = .ended ∨ (s.loggerStep clock opened).work + 1 ≤ s.work := by
  unfold LogSystem.loggerStep
  split
  · next hpc =>
      right
      unfold LogSystem.loggerSection
      split
      · next hsome =>
          have hwork : s.work = 2 * s.queue.count + 1 := by rw [LogSystem.work, hpc, LoggerPc.left]
          show 2 * (s.queue.count - 1) + 2 + 1 ≤ s.work
          omega
      · rw [if_neg (by rw [hstopped]; exact Bool.false_ne_true)]
        show 2 * s.queue.count + 0 + 1 ≤ s.work
        rw [LogSystem.work, hpc, LoggerPc.left]
  · next hpc =>
      obtain ⟨hrun, -⟩ := h.sleeps hpc
      rw [hstopped] at hrun
      cases hrun
  · next entry hpc =>
      right
      show 2 * s.queue.count + 1 + 1 ≤ s.work
      rw [LogSystem.work, hpc, LoggerPc.left]
  · next hpc => exact Or.inl hpc

/-- What a step that is not the logger's leaves alone: the stop is a wake-up of a server that has
been told to stop. -/
theorem grew_step (s : LogSystem) {i : LogStep} (h : i.isLogger = false) :
    ∃ keepRunning, LogSystem.Grew { s with keepRunning := keepRunning } (s.step i) := by
  cases i with
  | enqueue type message woken => exact ⟨_, grew_enqueueLog s type message woken⟩
  | logger clock opened => cases h
  | monitor report woken => exact ⟨_, grew_monitorStep s report woken⟩
  | wakeLogger => exact ⟨_, (woke_wakeLogger s).grew⟩
  | wakeMonitor => exact ⟨_, (woke_wakeMonitor s).grew⟩
  | stop => exact ⟨false, (woke_both { s with keepRunning := false }).grew⟩

/-- Nothing brings a logger back that has ended, and it handles nothing any more. -/
theorem step_of_ended (h : s.logger = .ended) (i : LogStep) :
    (s.step i).logger = .ended ∧ (s.step i).handled = s.handled ∧ (s.step i).files = s.files := by
  by_cases hi : i.isLogger = true
  · cases i with
    | logger clock opened =>
        have hsame : s.step (.logger clock opened) = s := by
          show s.loggerStep clock opened = s
          rw [LogSystem.loggerStep, h]
        rw [hsame]
        exact ⟨h, rfl, rfl⟩
    | _ => cases hi
  · obtain ⟨keepRunning, hg⟩ := grew_step s (Bool.eq_false_of_not_eq_true hi)
    exact ⟨hg.ended_iff.mpr h, hg.handled, hg.files⟩

/-- The logger ends over an empty ring, and only when it was told to. -/
theorem ends_step (h : s.logger ≠ .ended) (i : LogStep) (hended : (s.step i).logger = .ended) :
    s.logger = .locking ∧ s.queue.count = 0 ∧ s.keepRunning = false
      ∧ s.step i = { s with logger := .ended } := by
  by_cases hi : i.isLogger = true
  · cases i with
    | logger clock opened =>
        change (s.loggerStep clock opened).logger = .ended at hended
        show _ ∧ _ ∧ _ ∧ s.loggerStep clock opened = _
        unfold LogSystem.loggerStep at hended ⊢
        split at hended
        · next hpc =>
            unfold LogSystem.loggerSection at hended ⊢
            split at hended
            · cases hended
            · next hempty =>
                split at hended
                · cases hended
                · next hstopped =>
                    refine ⟨hpc, Nat.eq_zero_of_not_pos hempty,
                      Bool.eq_false_of_not_eq_true hstopped, ?_⟩
                    rw [dif_neg hempty, if_neg hstopped]
        · exact absurd hended h
        · cases hended
        · exact absurd hended h
    | _ => cases hi
  · obtain ⟨keepRunning, hg⟩ := grew_step s (Bool.eq_false_of_not_eq_true hi)
    exact absurd (hg.ended_iff.mp hended) h

/-- A server that was told to stop is not told otherwise. -/
theorem stopped_step (h : s.keepRunning = false) (i : LogStep) :
    (s.step i).keepRunning = false := by
  cases i with
  | enqueue type message woken => exact (grew_enqueueLog s type message woken).keepRunning.trans h
  | logger clock opened => exact (keepRunning_loggerStep s clock opened).trans h
  | monitor report woken => exact (grew_monitorStep s report woken).keepRunning.trans h
  | wakeLogger => exact (woke_wakeLogger s).keepRunning.trans h
  | wakeMonitor => exact (woke_wakeMonitor s).keepRunning.trans h
  | stop => exact (woke_both { s with keepRunning := false }).keepRunning

/-- What a step does to the work of a logger that is to end. -/
theorem work_step (h : s.Wakeful) (hstopped : s.keepRunning = false) (i : LogStep) :
    s.logger = .ended ∨
      (s.step i).work + (if i.isLogger then 1 else 0)
        ≤ s.work + 2 * (if i.mayEnqueue then 1 else 0) := by
  cases i with
  | enqueue type message woken => exact Or.inr (grew_enqueueLog s type message woken).work_le
  | logger clock opened => exact loggerStep_work h hstopped clock opened
  | monitor report woken => exact Or.inr (grew_monitorStep s report woken).work_le
  | wakeLogger => exact Or.inr (woke_wakeLogger s).work_eq.le
  | wakeMonitor => exact Or.inr (woke_wakeMonitor s).work_eq.le
  | stop => exact Or.inr (woke_both { s with keepRunning := false }).work_eq.le

theorem ended_of_ended (h : s.logger = .ended) (is : List LogStep) :
    (runSteps LogSystem.step s is).logger = .ended := by
  induction is generalizing s with
  | nil => exact h
  | cons i is ih => exact ih (step_of_ended h i).1

/-- **The logger ends**: each of its steps is progress, and each entry costs it two. -/
theorem ends_of_steps (h : s.Wakeful) (hstopped : s.keepRunning = false) {is : List LogStep}
    (hsteps : s.work + 2 * is.countP LogStep.mayEnqueue ≤ is.countP LogStep.isLogger) :
    (runSteps LogSystem.step s is).logger = .ended := by
  induction is generalizing s with
  | nil =>
      rw [List.countP_nil, List.countP_nil] at hsteps
      rw [runSteps_nil]
      have hleft : s.logger.left = 0 := by
        unfold LogSystem.work at hsteps
        omega
      cases hpc : s.logger with
      | ended => rfl
      | _ => rw [hpc] at hleft; cases hleft
  | cons i is ih =>
      rw [List.countP_cons, List.countP_cons] at hsteps
      rw [runSteps_cons]
      rcases work_step h hstopped i with hended | hwork
      · apply ended_of_ended
        exact (step_of_ended hended i).1
      · apply ih (wakeful_step h i) (stopped_step hstopped i)
        omega

/-! ## The monitor's way to its next report -/

def LogStep.isMonitor : LogStep → Bool
  | .monitor _ _ => true
  | _ => false

/-- The monitor's steps up to and with its next report. -/
def MonitorPc.due : MonitorPc → Nat
  | .testing => 2
  | _ => 1

theorem LogSystem.Woke.monitor_eq (h : s.Woke s') (hpc : s.monitor ≠ .waiting) :
    s'.monitor = s.monitor := by
  rcases h.monitor with heq | ⟨hwait, -⟩
  · exact heq
  · exact absurd hwait hpc

/-- Only its own steps move a monitor that does not wait. -/
theorem monitor_kept (h : s.monitor ≠ .waiting) {i : LogStep} (hi : i.isMonitor = false) :
    (s.step i).monitor = s.monitor := by
  cases i with
  | enqueue type message woken =>
      show (s.enqueueLog type message woken).monitor = s.monitor
      unfold LogSystem.enqueueLog
      split
      · next hroom =>
          exact LogSystem.Woke.monitor_eq (s := { s with
            queue := s.queue.put (fillEntry message type) hroom
            accepted := s.accepted ++ [fillEntry message type (s.queue.entries.get s.queue.last)] })
            (woke_signal _ woken) h
      · rfl
  | logger clock opened =>
      show (s.loggerStep clock opened).monitor = s.monitor
      unfold LogSystem.loggerStep
      split
      · unfold LogSystem.loggerSection
        split
        · rfl
        · split <;> rfl
      · rfl
      · rfl
      · rfl
  | monitor report woken => cases hi
  | wakeLogger => exact (woke_wakeLogger s).monitor_eq h
  | wakeMonitor => exact (woke_wakeMonitor s).monitor_eq h
  | stop => exact LogSystem.Woke.monitor_eq (s := { s with keepRunning := false }) (woke_both _) h

/-- A sleeping logger takes nothing out of the ring. -/
theorem count_kept (hwait : s.logger = .waiting) (i : LogStep) :
    s.queue.count ≤ (s.step i).queue.count := by
  by_cases hi : i.isLogger = true
  · cases i with
    | logger clock opened =>
        show s.queue.count ≤ (s.loggerStep clock opened).queue.count
        rw [LogSystem.loggerStep, hwait]
    | _ => cases hi
  · obtain ⟨keepRunning, hg⟩ := grew_step s (Bool.eq_false_of_not_eq_true hi)
    exact hg.le_count

/-- **The next report wakes the logger** that sleeps over an entry. -/
theorem wakes_of_due (h : s.Wakeful) (hwait : s.logger = .waiting) (hsome : 0 < s.queue.count)
    {is : List LogStep} (hdue : s.monitor.due ≤ is.countP LogStep.isMonitor) :
    ∃ js, js <+: is ∧ (runSteps LogSystem.step s js).logger ≠ .waiting := by
  induction is generalizing s with
  | nil =>
      rw [List.countP_nil] at hdue
      cases hpc : s.monitor <;> rw [hpc] at hdue <;> exact absurd hdue (by decide)
  | cons i is ih =>
      by_cases hnext : (s.step i).logger = .waiting
      · obtain ⟨hrun, hzero | ⟨-, hpc⟩⟩ := h.sleeps hwait
        · omega
        have hcount : 0 < (s.step i).queue.count := hsome.trans_le (count_kept hwait i)
        have hdue' : (s.step i).monitor.due ≤ is.countP LogStep.isMonitor := by
          by_cases hi : i.isMonitor = true
          · rw [List.countP_cons_of_pos hi] at hdue
            cases i with
            | monitor report woken =>
                rcases hpc with htest | hreport
                · have hmoved : (s.step (.monitor report woken)).monitor = .reporting := by
                    show (s.monitorStep report woken).monitor = .reporting
                    simp only [LogSystem.monitorStep, htest, hrun, if_true]
                  rw [htest] at hdue
                  rw [hmoved]
                  exact Nat.le_of_succ_le_succ hdue
                · -- the report itself wakes the logger
                  exfalso
                  apply (wakeful_report h hreport report woken).2
                  have htelemetry := h.created (by rw [hreport]; decide)
                  change (s.monitorStep report woken).logger = .waiting at hnext
                  rw [LogSystem.monitorStep, hreport] at hnext
                  simpa only [htelemetry, if_true] using hnext
            | _ => cases hi
          · rw [List.countP_cons_of_neg hi] at hdue
            rw [monitor_kept _ (Bool.eq_false_of_not_eq_true hi)]
            · exact hdue
            · rcases hpc with hpc | hpc <;> rw [hpc] <;> decide
        obtain ⟨js, hjs, hawake⟩ := ih (wakeful_step h i) hnext hcount hdue'
        exact ⟨i :: js, (List.prefix_cons_inj i).mpr hjs, hawake⟩
      · exact ⟨[i], List.prefix_append [i] is, hnext⟩

end Steps

/-! ## Runs -/

section Runs

variable (telemetryEnabled created : Bool) (files : List UInt8 → List UInt8)

/-- The logging after the steps `is`. -/
def logAfter (is : List LogStep) : LogSystem :=
  runSteps LogSystem.step (startThreadLogger telemetryEnabled created files) is

theorem logAfter_append (is js : List LogStep) :
    logAfter telemetryEnabled created files (is ++ js)
      = runSteps LogSystem.step (logAfter telemetryEnabled created files is) js :=
  runSteps_append _ is js

theorem consistent_after (is : List LogStep) :
    (logAfter telemetryEnabled created files is).Consistent files :=
  runSteps_induction (consistent_start telemetryEnabled created files)
    fun i _ _ h => consistent_step h i

theorem wakeful_after (is : List LogStep) :
    (logAfter telemetryEnabled created files is).Wakeful :=
  runSteps_induction (wakeful_start telemetryEnabled created files) fun i _ _ h => wakeful_step h i

/-- **Every interleaving**: the entries that the logger has handled, has in its hand and finds in
the ring are the accepted ones, in order; the files have grown by the lines of the handled entries,
in order; and an entry is accepted, as the text that fits, exactly while fewer than 1024 wait. -/
theorem log_run (is : List LogStep) :
    let s := logAfter telemetryEnabled created files is
    s.accepted = s.handled.map Handled.entry ++ s.logger.inHand ++ s.queue.toList
      ∧ (∀ path, s.files path = files path ++ s.handled.flatMap (Handled.bytes path))
      ∧ ∀ type message woken,
          (s.enqueueLog type (some message) woken).accepted
            = if s.queue.toList.length < maxLogQueue
              then s.accepted ++ [LogEntry.print message type]
              else s.accepted := by
  intro s
  have hs : s.Consistent files := consistent_after telemetryEnabled created files is
  refine ⟨hs.accepted, hs.files, fun type message woken => ?_⟩
  rw [RingBuffer.length_toList]
  unfold LogSystem.enqueueLog
  split
  · exact (woke_signal _ woken).accepted
  · rfl

/-- The server was told to stop before it does not run any more. -/
theorem stop_mem {is : List LogStep}
    (h : (logAfter telemetryEnabled created files is).keepRunning = false) : LogStep.stop ∈ is := by
  induction is using List.reverseRecOn with
  | nil => cases h
  | append_singleton is i ih =>
      rw [logAfter_append] at h
      rw [List.mem_append]
      cases i with
      | stop => exact Or.inr (List.mem_singleton.mpr rfl)
      | logger clock opened =>
          exact Or.inl (ih ((keepRunning_loggerStep _ clock opened).symm.trans h))
      | enqueue type message woken =>
          exact Or.inl (ih ((grew_enqueueLog _ type message woken).keepRunning ▸ h))
      | monitor report woken =>
          exact Or.inl (ih ((grew_monitorStep _ report woken).keepRunning ▸ h))
      | wakeLogger => exact Or.inl (ih ((woke_wakeLogger _).keepRunning ▸ h))
      | wakeMonitor => exact Or.inl (ih ((woke_wakeMonitor _).keepRunning ▸ h))

/-- When the logger has ended, all that was accepted up to its end was handled. -/
theorem ended_after {is : List LogStep}
    (h : (logAfter telemetryEnabled created files is).logger = .ended) :
    ∃ js ks, is = js ++ ks ∧ LogStep.stop ∈ js
      ∧ (logAfter telemetryEnabled created files js).handled.map Handled.entry
        = (logAfter telemetryEnabled created files js).accepted
      ∧ (logAfter telemetryEnabled created files is).handled
        = (logAfter telemetryEnabled created files js).handled := by
  induction is using List.reverseRecOn with
  | nil => cases h
  | append_singleton is i ih =>
      by_cases hbefore : (logAfter telemetryEnabled created files is).logger = .ended
      · obtain ⟨js, ks, hsplit, hstop, hall, hhandled⟩ := ih hbefore
        refine ⟨js, ks ++ [i], by rw [hsplit, List.append_assoc], hstop, hall, ?_⟩
        rw [logAfter_append]
        exact (step_of_ended hbefore i).2.1.trans hhandled
      · refine ⟨is ++ [i], [], (List.append_nil _).symm, ?_, ?_, rfl⟩
        · rw [logAfter_append] at h
          obtain ⟨-, -, hstopped, -⟩ := ends_step hbefore i h
          exact List.mem_append_left _ (stop_mem telemetryEnabled created files hstopped)
        · have hs := (consistent_after telemetryEnabled created files (is ++ [i])).accepted
          rw [logAfter_append] at h hs ⊢
          obtain ⟨-, hempty, -, hstep⟩ := ends_step hbefore i h
          change (LogSystem.step _ i).accepted = _ at hs
          show _ = (LogSystem.step _ i).accepted
          rw [hs]
          show _ = _ ++ LoggerPc.inHand (LogSystem.step _ i).logger
            ++ (LogSystem.step _ i).queue.toList
          rw [hstep]
          show _ = _ ++ [] ++ RingBuffer.toList _
          rw [(RingBuffer.toList_eq_nil _).mpr hempty, List.append_nil, List.append_nil]

/-- **The stop loses nothing**: once the server was told to stop, the logger ends after at most two
of its steps for each entry that waits or still comes in, and two more; and what was accepted up to
its end, so all that was accepted before the stop, has been handled. -/
theorem log_drained {is ks : List LogStep}
    (hstopped : (logAfter telemetryEnabled created files is).keepRunning = false)
    (hsteps : 2 * (logAfter telemetryEnabled created files is).queue.toList.length + 2
      + 2 * ks.countP LogStep.mayEnqueue ≤ ks.countP LogStep.isLogger) :
    let s := logAfter telemetryEnabled created files (is ++ ks)
    s.logger = .ended
      ∧ ∃ as bs, is ++ ks = as ++ bs ∧ LogStep.stop ∈ as
        ∧ s.handled.map Handled.entry = (logAfter telemetryEnabled created files as).accepted := by
  intro s
  have hended : s.logger = .ended := by
    show (logAfter telemetryEnabled created files (is ++ ks)).logger = .ended
    rw [logAfter_append]
    apply ends_of_steps (wakeful_after telemetryEnabled created files is) hstopped
    rw [RingBuffer.length_toList] at hsteps
    have hpc := (logAfter telemetryEnabled created files is).logger.left_le
    unfold LogSystem.work
    omega
  obtain ⟨as, bs, hsplit, hstop, hall, hhandled⟩ :=
    ended_after telemetryEnabled created files hended
  exact ⟨hended, as, bs, hsplit, hstop, (congrArg _ hhandled).trans hall⟩

/-- An entry and the stop, which the logger overtakes. -/
theorem log_drained_one :
    let clock : LogClock := ⟨ascii "2026-01-01", ascii "00:00:00.000"⟩
    let is := [LogStep.logger clock true, .enqueue .system (some (ascii "[CORE] up")) .logger, .stop]
    let ks := List.replicate 4 (LogStep.logger clock true)
    (logAfter false false (fun _ => []) (is ++ ks)).logger = .ended
      ∧ (logAfter false false (fun _ => []) (is ++ ks)).handled.length = 1 := by
  intro clock is ks
  have hdrained := @log_drained false false (fun _ => []) is ks rfl (by
    rw [RingBuffer.length_toList]
    decide)
  exact ⟨hdrained.1, rfl⟩

/-- **No wake-up is lost for good**: the logger sleeps only while the server runs; if there is
something in the ring then, it is one entry, whose signal woke the monitor instead, and the logger is
awake again by the end of the monitor's second step from there on, whatever else happens. -/
theorem log_sleeps (is : List LogStep)
    (hwait : (logAfter telemetryEnabled created files is).logger = .waiting) :
    let s := logAfter telemetryEnabled created files is
    s.keepRunning = true
      ∧ (s.queue.toList = [] ∨
          s.queue.toList.length = 1 ∧ s.telemetryEnabled = true
            ∧ (s.monitor = .testing ∨ s.monitor = .reporting)
            ∧ ∀ ks, 2 ≤ ks.countP LogStep.isMonitor →
                ∃ js, js <+: ks ∧ (runSteps LogSystem.step s js).logger ≠ .waiting) := by
  intro s
  have hs : s.Wakeful := wakeful_after telemetryEnabled created files is
  obtain ⟨hrun, hzero | ⟨hone, hpc⟩⟩ := hs.sleeps hwait
  · exact ⟨hrun, Or.inl (s.queue.toList_eq_nil.mpr hzero)⟩
  · refine ⟨hrun, Or.inr ⟨?_, hs.created ?_, hpc, fun ks hks => ?_⟩⟩
    · rw [RingBuffer.length_toList]
      exact hone
    · rcases hpc with hpc | hpc <;> rw [hpc] <;> decide
    · apply wakes_of_due hs hwait (by omega)
      have hdue (pc : MonitorPc) : pc.due ≤ 2 := by cases pc <;> decide
      exact (hdue s.monitor).trans hks

/-- A signal that goes to the monitor: the logger sleeps over the entry. -/
theorem log_sleeps_over_one :
    let clock : LogClock := ⟨ascii "2026-01-01", ascii "00:00:00.000"⟩
    let is := [LogStep.monitor [] .both, .logger clock true, .logger clock true,
      .monitor [] .both, .monitor [] .both, .logger clock true, .logger clock true,
      .monitor [] .both, .logger clock true, .enqueue .error (some (ascii "late")) .monitor]
    let s := logAfter true true (fun _ => []) is
    s.keepRunning = true ∧ s.queue.toList.length = 1 := by
  intro clock is s
  have hwait : s.logger = .waiting := rfl
  have hsleeps := log_sleeps true true (fun _ => []) is hwait
  refine ⟨hsleeps.1, ?_⟩
  rcases hsleeps.2 with hnil | ⟨hone, -⟩
  · rw [RingBuffer.toList_eq_nil] at hnil
    cases hnil
  · exact hone

end Runs

end Halmos.Utils
