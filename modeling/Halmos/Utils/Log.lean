import Halmos.Basic.CString
import Halmos.Basic.RingBuffer
import Halmos.Basic.Runs

set_option autoImplicit false

/-! # The log queue and its threads

Whoever has something to log puts an entry into a ring under a lock, and never waits: when the ring
is full, the entry is dropped. One thread takes the entries out and appends them to files. With
telemetry, a second thread puts an entry with the server's numbers into the ring every 15 seconds,
and in between waits on the *same* condition variable as the first one, so that it wakes up when
the server stops; a signal for a new entry can therefore wake either of them.

A step here is one critical section, or what a thread does between two of them.
-/

namespace Halmos.Utils

/-! ## Entries -/

def maxLogQueue : Nat := 1024
def maxLogMessage : Nat := 512

/-- `LOG_DIR`. -/
def logDir : List UInt8 := ascii "/var/log/halmos/"

inductive LogType
  | system
  | error
  | access
  | metrics
  deriving DecidableEq

/-- `LogEntry`, less its `timestamp`, which nothing sets or reads: `text` is what is in front of the
terminator. -/
@[ext] structure LogEntry where
  text : List UInt8
  type : LogType
  fits : text.length < maxLogMessage
  terminated : 0 ∉ text

instance : DecidableEq LogEntry := fun a b =>
  decidable_of_iff (a.text = b.text ∧ a.type = b.type) LogEntry.ext_iff.symm

/-- What `snprintf` leaves in the buffer of an entry. -/
def LogEntry.print (message : List UInt8) (type : LogType) : LogEntry where
  text := (cstr message).take (maxLogMessage - 1)
  type := type
  fits := by
    have hcut := List.length_take_le (maxLogMessage - 1) (cstr message)
    exact Nat.lt_of_le_of_lt hcut (by decide)
  terminated := fun h => zero_notMem_cstr message (List.mem_of_mem_take h)

/-- The array before any entry is in it. -/
def LogEntry.zero : LogEntry := ⟨[], .system, by decide, List.not_mem_nil⟩

abbrev LogQueue := RingBuffer LogEntry maxLogQueue

/-- `global_log_queue`, as it is initialised. -/
def globalLogQueue : LogQueue := RingBuffer.empty (by decide) LogEntry.zero

/-- What becomes of the entry at the tail. `message` is the text that the format and its arguments
make; without a format, the old text stays. -/
def fillEntry (message : Option (List UInt8)) (type : LogType) (old : LogEntry) : LogEntry :=
  match message with
  | some message => LogEntry.print message type
  | none => { old with type := type }

/-! ## Lines -/

/-- What the clock says: `date_str` and `time_str`. -/
structure LogClock where
  dateStr : List UInt8
  timeStr : List UInt8

/-- The end of the name of the file for a type. -/
def LogType.suffix : LogType → List UInt8
  | .error => ascii "_error.log"
  | .metrics => ascii "_telemetry.log"
  | .access => ascii "_access.log"
  | .system => ascii "_system.log"

/-- `log_filename`, a buffer of 256 bytes. -/
def logFilename (clock : LogClock) (type : LogType) : List UInt8 :=
  (logDir ++ clock.dateStr ++ type.suffix).take 255

/-- What `fprintf` writes for an entry. -/
def logLine (clock : LogClock) (entry : LogEntry) : List UInt8 :=
  match entry.type with
  | .metrics => entry.text ++ ascii "\n"
  | .access => ascii "[" ++ clock.timeStr ++ ascii "] " ++ entry.text ++ ascii "\n"
  | .error => ascii "[" ++ clock.timeStr ++ ascii "] [ERROR] " ++ entry.text ++ ascii "\n"
  | .system => ascii "[" ++ clock.timeStr ++ ascii "] [INFO] " ++ entry.text ++ ascii "\n"

/-! ## The threads -/

/-- Where `log_thread_routine` is: about to take the lock, in `pthread_cond_wait`, with an entry in
its hand, or at its end. A thread that wakes up takes the lock and makes the same tests again. -/
inductive LoggerPc
  | locking
  | waiting
  | writing (entry : LogEntry)
  | ended
  deriving DecidableEq

/-- Where `telemetry_monitor_thread` is: not created, at its first message, at the test of its loop,
about to report, about to wait, in `pthread_cond_timedwait`, or at its end. -/
inductive MonitorPc
  | absent
  | starting
  | testing
  | reporting
  | locking
  | waiting
  | ended
  deriving DecidableEq

/-- An entry that left the ring: when it was handled, and whether its file could be opened. -/
structure Handled where
  entry : LogEntry
  clock : LogClock
  opened : Bool

/-- The logging of the server. `accepted` is the history of the entries put into the ring, `handled`
that of the entries that were written, or lost because their file could not be opened. -/
structure LogSystem where
  queue : LogQueue
  keepRunning : Bool
  telemetryEnabled : Bool
  logger : LoggerPc
  monitor : MonitorPc
  files : List UInt8 → List UInt8
  accepted : List LogEntry
  handled : List Handled

/-- `start_thread_logger` has created its threads; without telemetry there is no second one, nor if
it cannot be created. -/
def startThreadLogger (telemetryEnabled created : Bool) (files : List UInt8 → List UInt8) :
    LogSystem where
  queue := globalLogQueue
  keepRunning := true
  telemetryEnabled := telemetryEnabled
  logger := .locking
  monitor := if telemetryEnabled = true ∧ created = true then .starting else .absent
  files := files
  accepted := []
  handled := []

/-- Whom a signal wakes when both threads wait: at least one of them. -/
inductive Woken
  | logger
  | monitor
  | both
  deriving DecidableEq

def LogSystem.wakeLogger (s : LogSystem) : LogSystem :=
  if s.logger = .waiting then { s with logger := .locking } else s

def LogSystem.wakeMonitor (s : LogSystem) : LogSystem :=
  if s.monitor = .waiting then { s with monitor := .testing } else s

/-- `pthread_cond_signal(&global_log_queue.cond)`. -/
def LogSystem.signal (s : LogSystem) (woken : Woken) : LogSystem :=
  if s.logger = .waiting ∧ s.monitor = .waiting then
    match woken with
    | .logger => s.wakeLogger
    | .monitor => s.wakeMonitor
    | .both => s.wakeLogger.wakeMonitor
  else s.wakeLogger.wakeMonitor

/-- `enqueue_log`. -/
def LogSystem.enqueueLog (s : LogSystem) (type : LogType) (message : Option (List UInt8))
    (woken : Woken) : LogSystem :=
  if hroom : s.queue.count < maxLogQueue then
    { s with
      queue := s.queue.put (fillEntry message type) hroom
      accepted := s.accepted ++ [fillEntry message type (s.queue.entries.get s.queue.last)]
      : LogSystem }.signal woken
  else s

/-- The critical section of `log_thread_routine`. -/
def LogSystem.loggerSection (s : LogSystem) : LogSystem :=
  if hsome : 0 < s.queue.count then
    { s with queue := s.queue.drop hsome, logger := .writing s.queue.first }
  else if s.keepRunning = true then { s with logger := .waiting }
  else { s with logger := .ended }

/-- The entry is appended to its file, if that can be opened. -/
def LogSystem.writeFile (s : LogSystem) (entry : LogEntry) (clock : LogClock) (opened : Bool) :
    LogSystem :=
  let path := logFilename clock entry.type
  { s with
    files :=
      if opened = true then
        Function.update s.files path (s.files path ++ logLine clock entry)
      else s.files
    handled := s.handled ++ [⟨entry, clock, opened⟩]
    logger := .locking }

/-- What `log_thread_routine` does next. -/
def LogSystem.loggerStep (s : LogSystem) (clock : LogClock) (opened : Bool) : LogSystem :=
  match s.logger with
  | .locking => s.loggerSection
  | .waiting => s
  | .writing entry => s.writeFile entry clock opened
  | .ended => s

/-- What `telemetry_monitor_thread` does next; `report` is the text of the numbers. -/
def LogSystem.monitorStep (s : LogSystem) (report : List UInt8) (woken : Woken) : LogSystem :=
  match s.monitor with
  | .absent => s
  | .starting =>
      { s with monitor := .testing }.enqueueLog .system
        (some (ascii "[CORE] Telemetry monitor thread started.")) woken
  | .testing =>
      { s with monitor := if s.keepRunning = true then .reporting else .ended }
  | .reporting =>
      if s.telemetryEnabled = true then
        { s with monitor := .locking }.enqueueLog .metrics (some report) woken
      else { s with monitor := .locking }
  | .locking => { s with monitor := .waiting }
  | .waiting => s
  | .ended => s

/-- `stop_thread_logger`, up to its joins. -/
def LogSystem.stopThreadLogger (s : LogSystem) : LogSystem :=
  { s with keepRunning := false }.wakeLogger.wakeMonitor

/-- A step: some thread logs something, the logger or the monitor goes on, one of them wakes up by
itself (the monitor also after its 15 seconds), or the server stops. -/
inductive LogStep
  | enqueue (type : LogType) (message : Option (List UInt8)) (woken : Woken)
  | logger (clock : LogClock) (opened : Bool)
  | monitor (report : List UInt8) (woken : Woken)
  | wakeLogger
  | wakeMonitor
  | stop

def LogSystem.step (s : LogSystem) : LogStep → LogSystem
  | .enqueue type message woken => s.enqueueLog type message woken
  | .logger clock opened => s.loggerStep clock opened
  | .monitor report woken => s.monitorStep report woken
  | .wakeLogger => s.wakeLogger
  | .wakeMonitor => s.wakeMonitor
  | .stop => s.stopThreadLogger

end Halmos.Utils
