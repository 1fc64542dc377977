import Halmos.Basic.CString

set_option autoImplicit false

/-! # The adaptive configuration

`core_adaptive_init` of `halmos_core_adaptive.c`, which derives the limits of the server from the
cores, the memory, the descriptor limit and the backends of the host. Unsigned arithmetic is modulo
a power of two, and the operations are kept with their exact results, so that it can be said which
of them wrap around; arithmetic in `int` and `long` wraps as the build without optimization lets
it. The limits are what they are meant to be exactly if no operation wraps around, which is a
matter of the memory, the descriptors and the children of PHP (`coreAdaptiveInit_meets_iff`).
-/

namespace Halmos.Core

/-! ## Arithmetic in a width -/

/-- An operation on unsigned numbers: their width, and its exact result. -/
structure Unsigned where
  bits : Nat
  result : Int
  deriving DecidableEq, Repr

/-- What the operation leaves. -/
def Unsigned.value (u : Unsigned) : Int := u.result % 2 ^ u.bits

/-- The operation does not wrap around. -/
def Unsigned.Fits (u : Unsigned) : Prop := 0 ≤ u.result ∧ u.result < 2 ^ u.bits

instance (u : Unsigned) : Decidable u.Fits := inferInstanceAs (Decidable (_ ∧ _))

theorem Unsigned.Fits.value_eq {u : Unsigned} (h : u.Fits) : u.value = u.result :=
  Int.emod_eq_of_lt h.1 h.2

/-- `(int)x`, and arithmetic in `int` with the result `x`. -/
def i32 (x : Int) : Int := (x + 2 ^ 31) % 2 ^ 32 - 2 ^ 31

/-- Arithmetic in `long` with the result `x`. -/
def i64 (x : Int) : Int := (x + 2 ^ 63) % 2 ^ 64 - 2 ^ 63

theorem i32_of_range {x : Int} (hlo : -2 ^ 31 ≤ x) (hhi : x < 2 ^ 31) : i32 x = x := by
  unfold i32
  omega

theorem i32_range (x : Int) : -2 ^ 31 ≤ i32 x ∧ i32 x < 2 ^ 31 := by
  unfold i32
  omega

/-! ## The host -/

/-- What `core_adaptive_init` reads of a `BackendGroup`. -/
structure BackendGroup where
  nodeCount : Int32
  ext : List UInt8
  memoryBudget : Int32
  deriving DecidableEq, Repr

/-- What the server finds: the result of `sysconf`, `rlim_cur` if `getrlimit` answers, `totalram` and
`mem_unit` if `sysinfo` does, the configuration, and the file of PHP-FPM if it can be opened. -/
structure Host where
  numCores : Int64
  rlimCur : Option UInt64
  sysinfo : Option (UInt64 × UInt32)
  php : BackendGroup
  python : BackendGroup
  rust : BackendGroup
  phpFpmConfigPath : List UInt8
  phpFpmConfig : Option (List UInt8)
  deriving DecidableEq, Repr

def Host.isPhpActive (h : Host) : Bool := 0 < h.php.nodeCount ∨ h.phpFpmConfigPath ≠ []

def Host.isPythonActive (h : Host) : Bool := 0 < h.python.nodeCount ∨ h.python.ext ≠ []

def Host.isRustActive (h : Host) : Bool := 0 < h.rust.nodeCount ∨ h.rust.ext ≠ []

/-- The memory of a process of the backend in MB, with its default. -/
def BackendGroup.budget (g : BackendGroup) (default : Int) : Int :=
  if 0 < g.memoryBudget then g.memoryBudget.toInt else default

/-! ## The configuration of PHP-FPM -/

/-- `PHPConfig`. -/
structure PHPConfig where
  maxChildren : Int
  backlog : Int
  mode : List UInt8
  deriving DecidableEq, Repr

/-- `{50, 511, "dynamic"}`. -/
def PHPConfig.baseline : PHPConfig := ⟨50, 511, ascii "dynamic"⟩

def isSpace (c : UInt8) : Bool := c = 32 ∨ (9 ≤ c ∧ c ≤ 13)

/-- `strtol(s, &endptr, 10)`, if there are digits and the number is in the range of `long`. -/
def strtolChecked (s : List UInt8) : Option Int :=
  let s := s.dropWhile isSpace
  let digits := if s.head? = some 0x2D ∨ s.head? = some 0x2B then s.drop 1 else s
  let n : Int := digitsValue 0 digits
  let val := if s.head? = some 0x2D then -n else n
  if digits.head?.any (fun c => 48 ≤ c ∧ c ≤ 57) ∧ -2 ^ 63 ≤ val ∧ val < 2 ^ 63 then some val else none

/-- The number behind the `=` of a line, if it is one that is taken. -/
def lineNumber (ptr : List UInt8) : Option Int := do
  let (_, eq) ← strstr (ascii "=") ptr
  let val ← strtolChecked (eq.drop 1)
  if 0 < val then some (i32 val) else none

/-- A line without its end, its comment and the blanks in front. -/
def cleanLine (line : List UInt8) : List UInt8 :=
  let line := (cstr line).takeWhile (fun c => c ≠ 0x0D ∧ c ≠ 0x0A)
  let line := if 0x3B ∈ line then line.takeWhile (fun c => c ≠ 0x3B)
    else line.takeWhile (fun c => c ≠ 0x23)
  line.dropWhile (fun c => c = 0x20 ∨ c = 0x09)

/-- A round of the loop of `fetch_php_fpm_config`. -/
def configLine (cfg : PHPConfig) (line : List UInt8) : PHPConfig :=
  let ptr := cleanLine line
  if ptr = [] then cfg
  else if (strstr (ascii "pm.max_children") ptr).isSome then
    { cfg with maxChildren := (lineNumber ptr).getD cfg.maxChildren }
  else if (strstr (ascii "listen.backlog") ptr).isSome then
    { cfg with backlog := (lineNumber ptr).getD cfg.backlog }
  else if (strstr (ascii "pm =") ptr).isSome ∨ (strstr (ascii "pm=") ptr).isSome then
    match strstr (ascii "=") ptr with
    | none => cfg
    | some (key, eq) =>
        if 0x2E ∈ key then cfg
        else
          let word := ((eq.drop 1).dropWhile isSpace).takeWhile (fun c => ¬ isSpace c)
          { cfg with mode := if word = [] then cfg.mode else word.take 15 }
  else cfg

/-- `fetch_php_fpm_config()`. -/
def fetchPhpFpmConfig (h : Host) : PHPConfig :=
  if h.phpFpmConfigPath = [] then .baseline
  else
    match h.phpFpmConfig with
    | none => .baseline
    | some content => (fgetsLines 255 [] content).foldl configLine .baseline

/-! ## The limits -/

/-- `g_max_fd`. -/
def Host.maxFd (h : Host) : Int :=
  let rlimCur : Int := (h.rlimCur.getD 4096).toNat
  let calculatedMaxFd :=
    if rlimCur = 2 ^ 64 - 1 then 65536
    else if 2 ^ 32 - 1 < rlimCur then 2 ^ 32 - 1
    else rlimCur
  if calculatedMaxFd < 64 then 64 else calculatedMaxFd

/-- `si.totalram * si.mem_unit`. -/
def Host.ramBytes (h : Host) : Unsigned :=
  match h.sysinfo with
  | none => ⟨64, 0⟩
  | some (totalram, memUnit) => ⟨64, (totalram.toNat * memUnit.toNat : Nat)⟩

/-- `total_ram_mb`, of the bytes of the memory. -/
def totalRamMb (bytes : Int) : Int := if bytes / (1024 * 1024) = 0 then 1024 else bytes / (1024 * 1024)

/-- `reserved_ram_mb`. -/
def reservedRamMb (totalRamMb : Int) : Int :=
  let reserved := totalRamMb / 4
  let reserved := if reserved < 1024 then 1024 else reserved
  if 4096 < reserved then 4096 else reserved

/-- What a backend may use of the memory, and the operations. -/
structure Budgets where
  php : Int
  python : Int
  rust : Int
  unsigned : List Unsigned

/-- `active_backend_count`. -/
def activeBackendCount (php python rust : Bool) : Nat :=
  let count := php.toNat + python.toNat + rust.toNat
  if count = 0 then 1 else count

/-- The parts of `available_for_web`, for each combination of backends. -/
def budgets (php python rust : Bool) (availableForWeb : Int) : Budgets :=
  let percent (p : Int) : Unsigned := ⟨64, availableForWeb * p⟩
  if activeBackendCount php python rust = 3 then
    ⟨(percent 50).value / 100, (percent 30).value / 100, (percent 20).value / 100,
      [percent 50, percent 30, percent 20]⟩
  else if activeBackendCount php python rust = 2 then
    if php ∧ python then
      ⟨(percent 60).value / 100, (percent 40).value / 100, 0, [percent 60, percent 40]⟩
    else if php ∧ rust then
      ⟨(percent 70).value / 100, 0, (percent 30).value / 100, [percent 70, percent 30]⟩
    else if python ∧ rust then
      ⟨0, (percent 60).value / 100, (percent 40).value / 100, [percent 60, percent 40]⟩
    else ⟨0, 0, 0, []⟩
  else
    ⟨if php then availableForWeb else 0, if python then availableForWeb else 0,
      if rust then availableForWeb else 0, []⟩

/-- `g_worker_max`, of the memory of the backends. -/
def Host.workerMax (h : Host) (phpBudgetRam pythonBudgetRam rustBudgetRam : Int) : Int :=
  let numCores := if h.numCores < 1 then 1 else h.numCores.toInt
  let maxPhpByRam := if h.isPhpActive then i32 (phpBudgetRam / h.php.budget 20) else 0
  let maxPythonByRam := if h.isPythonActive then i32 (pythonBudgetRam / h.python.budget 40) else 0
  let maxRustByRam := if h.isRustActive then i32 (rustBudgetRam / h.rust.budget 15) else 0
  let cpuBasedMax := i32 (i64 (numCores * 64))
  let ramTotalMax := i32 (i32 (maxPhpByRam + maxPythonByRam) + maxRustByRam)
  let ramTotalMax :=
    if ramTotalMax < 32 ∧ 0 < activeBackendCount h.isPhpActive h.isPythonActive h.isRustActive then 32
    else ramTotalMax
  let recommendedVal := if cpuBasedMax < ramTotalMax then cpuBasedMax else ramTotalMax
  let recommendedVal := if 1024 < recommendedVal then 1024 else recommendedVal
  if recommendedVal < 32 then 32 else recommendedVal

/-- `g_worker_min`. -/
def Host.workerMin (h : Host) (workerMax : Int) : Int :=
  let numCores := if h.numCores < 1 then 1 else h.numCores.toInt
  let workerMin := i32 (i32 numCores * 4)
  if workerMax < workerMin then workerMax else workerMin

/-- `php_quota`, `python_quota` and `rust_quota`, and the operations. -/
structure Quotas where
  php : Int
  python : Int
  rust : Int
  unsigned : List Unsigned

/-- `sisa_jatah`. -/
def sisaJatah (workerMax phpQuota : Int) : Int :=
  if i32 (workerMax - phpQuota) < 0 then 0 else i32 (workerMax - phpQuota)

/-- `fcgi_pool.php_quota`. -/
def Host.phpQuota (h : Host) : Int := if h.isPhpActive then (fetchPhpFpmConfig h).maxChildren else 0

def quotas (pythonActive rustActive : Bool) (workerMax phpQuota pythonBudgetRam rustBudgetRam : Int) :
    Quotas :=
  let sisa := sisaJatah workerMax phpQuota
  if pythonActive ∧ rustActive then
    let total : Unsigned := ⟨64, pythonBudgetRam + rustBudgetRam⟩
    if 0 < total.value then
      let product : Unsigned := ⟨64, sisa * pythonBudgetRam⟩
      let pythonQuota := i32 (product.value / total.value)
      ⟨phpQuota, pythonQuota, i32 (sisa - pythonQuota), [total, product]⟩
    else ⟨phpQuota, sisa / 2, i32 (sisa - sisa / 2), [total]⟩
  else if pythonActive then ⟨phpQuota, sisa, 0, []⟩
  else if rustActive then ⟨phpQuota, 0, sisa, []⟩
  else ⟨phpQuota, 0, 0, []⟩

/-- `g_queue_capacity`, and the operations. -/
def queueCapacity (maxFd workerMax : Int) : Int × List Unsigned :=
  let sisa : Unsigned := ⟨32, maxFd - workerMax⟩
  let product : Unsigned := ⟨32, sisa.value * 60⟩
  let (capacity, unsigned) :=
    if workerMax < maxFd then (i32 (product.value / 100), [sisa, product]) else (256, [])
  let capacity := if 4096 < capacity then 4096 else capacity
  (if capacity < 256 then 256 else capacity, unsigned)

/-- What `core_adaptive_init` computes, with the operations on unsigned numbers. -/
structure Adaptive where
  maxFd : Int
  totalRamMb : Int
  availableForWeb : Int
  budgets : Budgets
  workerMax : Int
  workerMin : Int
  quotas : Quotas
  poolSize : Int
  eventBatchSize : Int
  queueCapacity : Int
  unsigned : List Unsigned

/-- `core_adaptive_init`. -/
def coreAdaptiveInit (h : Host) : Adaptive :=
  let totalRamMb := totalRamMb h.ramBytes.value
  let available : Unsigned := ⟨64, totalRamMb - reservedRamMb totalRamMb⟩
  let b := budgets h.isPhpActive h.isPythonActive h.isRustActive available.value
  let workerMax := h.workerMax b.php b.python b.rust
  let q := quotas h.isPythonActive h.isRustActive workerMax h.phpQuota b.python b.rust
  let queue := queueCapacity h.maxFd workerMax
  { maxFd := h.maxFd
    totalRamMb := totalRamMb
    availableForWeb := available.value
    budgets := b
    workerMax := workerMax
    workerMin := h.workerMin workerMax
    quotas := q
    poolSize := i32 (i32 (q.php + q.rust) + q.python)
    eventBatchSize := if 1024 < workerMax then 1024 else workerMax
    queueCapacity := queue.1
    unsigned := h.ramBytes :: available :: (b.unsigned ++ q.unsigned ++ queue.2) }

/-! ## What the limits are meant to be -/

/-- The parts of the backends that are there, in percent of the memory for all of them. -/
def percentages : Bool → Bool → Bool → Int × Int × Int
  | true, true, true => (50, 30, 20)
  | true, true, false => (60, 40, 0)
  | true, false, true => (70, 0, 30)
  | false, true, true => (0, 60, 40)
  | true, false, false => (100, 0, 0)
  | false, true, false => (0, 100, 0)
  | false, false, true => (0, 0, 100)
  | false, false, false => (0, 0, 0)

section Exact

variable (h : Host)

/-- The bytes of the memory. -/
def Host.ram : Int := h.ramBytes.result

/-- The memory that is not reserved, in MB. -/
def Host.webRam : Int := totalRamMb h.ram - reservedRamMb (totalRamMb h.ram)

/-- What each backend gets of it. -/
def Host.shares : Int × Int × Int :=
  let p := percentages h.isPhpActive h.isPythonActive h.isRustActive
  (h.webRam * p.1 / 100, h.webRam * p.2.1 / 100, h.webRam * p.2.2 / 100)

/-- The processes of the backends that have room in the memory. -/
def Host.processes : Int :=
  let count (active : Bool) (share budget : Int) := if active then i32 (share / budget) else 0
  i32 (i32 (count h.isPhpActive h.shares.1 (h.php.budget 20) +
    count h.isPythonActive h.shares.2.1 (h.python.budget 40)) +
      count h.isRustActive h.shares.2.2 (h.rust.budget 15))

/-- The workers that the cores and the memory allow, 64 for a core, between 32 and 1024. -/
def Host.workers : Int :=
  max 32 (min 1024 (min (i32 (i64 ((if h.numCores < 1 then 1 else h.numCores.toInt) * 64)))
    (max 32 h.processes)))

/-- What the limits are meant to be: nothing has wrapped around, and they are in their bounds. -/
structure Adaptive.Meets (a : Adaptive) : Prop where
  noWrap : ∀ u ∈ a.unsigned, u.Fits
  availableForWeb_le : a.availableForWeb ≤ a.totalRamMb
  php_le : a.budgets.php ≤ a.totalRamMb
  python_le : a.budgets.python ≤ a.totalRamMb
  rust_le : a.budgets.rust ≤ a.totalRamMb
  queueCapacity_eq : a.queueCapacity = if a.maxFd ≤ a.workerMax then 256
    else max 256 (min 4096 ((a.maxFd - a.workerMax) * 60 / 100))
  le_workerMax : 32 ≤ a.workerMax
  workerMax_le : a.workerMax ≤ 1024
  workerMin_le : a.workerMin ≤ a.workerMax
  poolSize_eq : a.poolSize = a.quotas.php + a.quotas.rust + a.quotas.python

/-- The memory is a number of 64 bits and at least one GB, unless it is not known; the descriptor
limit is no more than 71582788 above the number of workers; and where Python shares with Rust, a
negative number of children for PHP does not leave so many workers to them that their product with
the memory of Python is a number of more than 64 bits. -/
structure Host.Regular : Prop where
  ram_lt : h.ram < 2 ^ 64
  ramMb : h.ram / (1024 * 1024) = 0 ∨ 1024 ≤ h.ram / (1024 * 1024)
  maxFd_lt : h.maxFd < h.workers + 71582789
  quota_lt : h.isPythonActive = true → h.isRustActive = true →
    max 0 (i32 (h.workers - h.phpQuota)) * h.shares.2.1 < 2 ^ 64

end Exact

/-! ## The sections of the function -/

theorem reservedRamMb_range (mb : Int) : 1024 ≤ reservedRamMb mb ∧ reservedRamMb mb ≤ 4096 := by
  simp only [reservedRamMb]
  split <;> split <;> omega

/-- There is memory for the backends behind the reserve from one GB on. -/
theorem reservedRamMb_le_iff (mb : Int) : reservedRamMb mb ≤ mb ↔ 1024 ≤ mb := by
  simp only [reservedRamMb]
  split <;> split <;> omega

/-- The parts are as they are meant if the memory is a number below `2 ^ 57`. -/
theorem budgets_eq (php python rust : Bool) {a : Int} (h0 : 0 ≤ a) (hlt : a < 2 ^ 57) :
    (∀ u ∈ (budgets php python rust a).unsigned, u.Fits) ∧
      (budgets php python rust a).php = a * (percentages php python rust).1 / 100 ∧
      (budgets php python rust a).python = a * (percentages php python rust).2.1 / 100 ∧
      (budgets php python rust a).rust = a * (percentages php python rust).2.2 / 100 := by
  cases php <;> cases python <;> cases rust <;>
    simp [budgets, activeBackendCount, percentages, Unsigned.value, Unsigned.Fits] <;> omega

/-- No part is more than all of the memory, and those of Python and Rust together are not. -/
theorem percentages_le (php python rust : Bool) :
    0 ≤ (percentages php python rust).1 ∧ (percentages php python rust).1 ≤ 100 ∧
      0 ≤ (percentages php python rust).2.1 ∧ 0 ≤ (percentages php python rust).2.2 ∧
      (percentages php python rust).2.1 + (percentages php python rust).2.2 ≤ 100 := by
  cases php <;> cases python <;> cases rust <;> decide

theorem share_range {a p : Int} (h0 : 0 ≤ a) (hp : 0 ≤ p) (hle : p ≤ 100) :
    0 ≤ a * p / 100 ∧ a * p / 100 ≤ a := by
  have hnonneg : 0 ≤ a * p := Int.mul_nonneg h0 hp
  have hmul : a * p ≤ a * 100 := Int.mul_le_mul_of_nonneg_left hle h0
  omega

theorem queueCapacity_fits (maxFd workerMax : Int) :
    (∀ u ∈ (queueCapacity maxFd workerMax).2, u.Fits) ↔ maxFd < workerMax + 71582789 := by
  unfold queueCapacity
  by_cases hmore : workerMax < maxFd
  · simp [hmore, Unsigned.Fits, Unsigned.value]
    omega
  · simp [hmore]
    omega

theorem queueCapacity_value {maxFd workerMax : Int} (hfd : maxFd < workerMax + 71582789) :
    (queueCapacity maxFd workerMax).1 = if maxFd ≤ workerMax then 256
      else max 256 (min 4096 ((maxFd - workerMax) * 60 / 100)) := by
  unfold queueCapacity
  by_cases hmore : workerMax < maxFd
  · have hsisa : (maxFd - workerMax) % 2 ^ 32 = maxFd - workerMax := by omega
    have hproduct : (maxFd - workerMax) * 60 % 2 ^ 32 = (maxFd - workerMax) * 60 := by omega
    have hcast : i32 ((maxFd - workerMax) * 60 / 100) = (maxFd - workerMax) * 60 / 100 :=
      i32_of_range (by omega) (by omega)
    simp only [if_pos hmore, if_neg (not_le.mpr hmore), Unsigned.value, hsisa, hproduct, hcast]
    split <;> split <;> omega
  · simp [hmore]

theorem sisaJatah_eq (workerMax phpQuota : Int) :
    sisaJatah workerMax phpQuota = max 0 (i32 (workerMax - phpQuota)) := by
  unfold sisaJatah
  split <;> omega

/-- What is left of the workers is nothing if there are that many children of PHP, and also if the
difference wraps around. -/
theorem sisaJatah_cases {workerMax phpQuota : Int} (hw : 0 ≤ workerMax) (hwle : workerMax ≤ 1024)
    (hlo : -2 ^ 31 ≤ phpQuota) (hhi : phpQuota < 2 ^ 31) :
    sisaJatah workerMax phpQuota = 0 ∨
      sisaJatah workerMax phpQuota = workerMax - phpQuota ∧ 0 ≤ workerMax - phpQuota ∧
        workerMax - phpQuota < 2 ^ 31 := by
  unfold sisaJatah i32
  split <;> omega

section Quotas

variable {pythonActive rustActive : Bool} {workerMax phpQuota python rust : Int}

theorem quotas_fits (hpython : 0 ≤ python) (hrust : 0 ≤ rust) (hsum : python + rust < 2 ^ 64) :
    (∀ u ∈ (quotas pythonActive rustActive workerMax phpQuota python rust).unsigned, u.Fits) ↔
      (pythonActive = true → rustActive = true →
        max 0 (i32 (workerMax - phpQuota)) * python < 2 ^ 64) := by
  have hsisa : 0 ≤ sisaJatah workerMax phpQuota * python := by
    rw [sisaJatah_eq]
    exact Int.mul_nonneg (le_max_left 0 _) hpython
  have htotal : (⟨64, python + rust⟩ : Unsigned).Fits := ⟨Int.add_nonneg hpython hrust, hsum⟩
  rw [← sisaJatah_eq]
  simp only [quotas, htotal.value_eq]
  by_cases hboth : pythonActive = true ∧ rustActive = true
  · rw [if_pos hboth]
    simp only [hboth.1, hboth.2, true_imp_iff]
    by_cases hpos : 0 < python + rust
    · rw [if_pos hpos]
      simp only [List.forall_mem_cons, List.not_mem_nil, false_imp_iff, implies_true, and_true,
        htotal, true_and]
      exact ⟨fun h => h.2, fun h => ⟨hsisa, h⟩⟩
    · have hnone : python = 0 := by omega
      rw [if_neg hpos]
      refine iff_of_true (fun u hu => ?_) (by rw [hnone, mul_zero]; decide)
      obtain rfl := List.mem_singleton.mp hu
      exact htotal
  · rw [if_neg hboth]
    have hno : pythonActive = true → rustActive = true →
        sisaJatah workerMax phpQuota * python < 2 ^ 64 := fun hp hr => absurd ⟨hp, hr⟩ hboth
    split
    · exact ⟨fun _ => hno, fun _ u hu => nomatch hu⟩
    · split
      · exact ⟨fun _ => hno, fun _ u hu => nomatch hu⟩
      · exact ⟨fun _ => hno, fun _ u hu => nomatch hu⟩

/-- Python and Rust get what is left of the workers, or nothing. -/
theorem quotas_eq (hrust : 0 ≤ rust)
    (hsisa : sisaJatah workerMax phpQuota < 2 ^ 31)
    (hfits : ∀ u ∈ (quotas pythonActive rustActive workerMax phpQuota python rust).unsigned, u.Fits) :
    (quotas pythonActive rustActive workerMax phpQuota python rust).php = phpQuota ∧
      0 ≤ (quotas pythonActive rustActive workerMax phpQuota python rust).python ∧
      0 ≤ (quotas pythonActive rustActive workerMax phpQuota python rust).rust ∧
      (quotas pythonActive rustActive workerMax phpQuota python rust).python +
        (quotas pythonActive rustActive workerMax phpQuota python rust).rust
          ≤ sisaJatah workerMax phpQuota := by
  have h0 : 0 ≤ sisaJatah workerMax phpQuota := sisaJatah_eq workerMax phpQuota ▸ le_max_left 0 _
  simp only [quotas] at hfits ⊢
  by_cases hboth : pythonActive = true ∧ rustActive = true
  · rw [if_pos hboth] at hfits ⊢
    by_cases hpos : 0 < (⟨64, python + rust⟩ : Unsigned).value
    · rw [if_pos hpos] at hfits ⊢
      simp only [List.forall_mem_cons, List.not_mem_nil, false_imp_iff, implies_true,
        and_true] at hfits
      rw [hfits.1.value_eq] at hpos
      dsimp only at hpos ⊢
      rw [hfits.1.value_eq, hfits.2.value_eq]
      dsimp only
      -- the quotient is no more than what is divided
      have hle : sisaJatah workerMax phpQuota * python / (python + rust)
          ≤ sisaJatah workerMax phpQuota := by
        refine Int.ediv_le_of_le_mul hpos ?_
        exact Int.mul_le_mul_of_nonneg_left (by omega) h0
      have hnonneg : 0 ≤ sisaJatah workerMax phpQuota * python / (python + rust) :=
        Int.ediv_nonneg hfits.2.1 hpos.le
      rw [i32_of_range (by omega) (by omega), i32_of_range (by omega) (by omega)]
      exact ⟨rfl, hnonneg, by omega, by omega⟩
    · rw [if_neg hpos]
      dsimp only
      rw [i32_of_range (by omega) (by omega)]
      exact ⟨rfl, by omega, by omega, by omega⟩
  · rw [if_neg hboth]
    split
    · exact ⟨rfl, h0, le_rfl, (add_zero _).le⟩
    · split
      · exact ⟨rfl, le_rfl, h0, (zero_add _).le⟩
      · exact ⟨rfl, le_rfl, le_rfl, h0⟩

end Quotas

theorem configLine_range {cfg : PHPConfig} (line : List UInt8)
    (h : -2 ^ 31 ≤ cfg.maxChildren ∧ cfg.maxChildren < 2 ^ 31) :
    -2 ^ 31 ≤ (configLine cfg line).maxChildren ∧ (configLine cfg line).maxChildren < 2 ^ 31 := by
  simp only [configLine]
  split
  · exact h
  · split
    · cases hnumber : lineNumber (cleanLine line) with
      | none => exact h
      | some n =>
          rw [lineNumber] at hnumber
          obtain ⟨found, -, hfound⟩ := Option.bind_eq_some_iff.mp hnumber
          obtain ⟨val, -, hval⟩ := Option.bind_eq_some_iff.mp hfound
          split at hval
          · obtain rfl := Option.some.inj hval
            exact i32_range val
          · cases hval
    · split
      · exact h
      · split
        · split
          · exact h
          · split
            · exact h
            · exact h
        · exact h

/-- The children of PHP are an `int`. -/
theorem phpQuota_range (h : Host) : -2 ^ 31 ≤ h.phpQuota ∧ h.phpQuota < 2 ^ 31 := by
  have hbase : -2 ^ 31 ≤ PHPConfig.baseline.maxChildren ∧ PHPConfig.baseline.maxChildren < 2 ^ 31 := by
    decide
  have hlines : ∀ (lines : List (List UInt8)) (cfg : PHPConfig),
      -2 ^ 31 ≤ cfg.maxChildren ∧ cfg.maxChildren < 2 ^ 31 →
        -2 ^ 31 ≤ (lines.foldl configLine cfg).maxChildren ∧
          (lines.foldl configLine cfg).maxChildren < 2 ^ 31 := by
    intro lines
    induction lines with
    | nil => exact fun _ hcfg => hcfg
    | cons line lines ih => exact fun cfg hcfg => ih _ (configLine_range line hcfg)
  unfold Host.phpQuota
  split
  · unfold fetchPhpFpmConfig
    split
    · exact hbase
    · split
      · exact hbase
      · exact hlines _ _ hbase
  · omega

/-! ## The whole function -/

section Whole

variable (h : Host)

theorem Host.maxFd_range : 0 ≤ h.maxFd ∧ h.maxFd < 2 ^ 32 := by
  simp only [maxFd]
  split <;> split <;> omega

theorem Host.ram_nonneg : 0 ≤ h.ram := by
  unfold ram ramBytes
  split
  · exact le_rfl
  · exact Int.natCast_nonneg _

theorem Host.ramBytes_fits_iff : h.ramBytes.Fits ↔ h.ram < 2 ^ 64 := by
  have hbits : h.ramBytes.bits = 64 := by
    unfold ramBytes
    split <;> rfl
  rw [Unsigned.Fits, hbits]
  exact and_iff_right h.ram_nonneg

theorem Host.workers_range : 32 ≤ h.workers ∧ h.workers ≤ 1024 := by
  unfold workers
  omega

/-- The clamps one after the other. -/
theorem clamps_eq (cpuBasedMax ramTotalMax : Int) :
    (let ram := if ramTotalMax < 32 then 32 else ramTotalMax
    let recommended := if cpuBasedMax < ram then cpuBasedMax else ram
    let recommended := if 1024 < recommended then 1024 else recommended
    if recommended < 32 then 32 else recommended)
      = max 32 (min 1024 (min cpuBasedMax (max 32 ramTotalMax))) := by
  dsimp only
  grind

theorem Host.workerMax_eq : h.workerMax h.shares.1 h.shares.2.1 h.shares.2.2 = h.workers := by
  have hcount : 0 < activeBackendCount h.isPhpActive h.isPythonActive h.isRustActive := by
    simp only [activeBackendCount]
    split <;> omega
  simp only [workerMax, workers, processes, hcount, and_true]
  exact clamps_eq _ _

/-- Memory of a number of 64 bits that leaves something behind the reserve is divided as it is
meant to be. -/
theorem Host.webRam_range (hram : h.ram < 2 ^ 64) (hmb : 0 ≤ h.webRam) :
    0 ≤ h.webRam ∧ h.webRam < 2 ^ 57 := by
  have hreserved := reservedRamMb_range (totalRamMb h.ram)
  refine ⟨hmb, ?_⟩
  unfold webRam
  have htotal : totalRamMb h.ram < 2 ^ 57 := by
    unfold totalRamMb
    split <;> omega
  omega

theorem Host.webRam_nonneg_iff :
    0 ≤ h.webRam ↔ h.ram / (1024 * 1024) = 0 ∨ 1024 ≤ h.ram / (1024 * 1024) := by
  have hle := reservedRamMb_le_iff (totalRamMb h.ram)
  have hsub : 0 ≤ h.webRam ↔ 1024 ≤ totalRamMb h.ram := by
    unfold webRam
    omega
  rw [hsub, totalRamMb]
  split <;> omega

/-- What Python, Rust and PHP get of the workers, of the exact parts of the memory. -/
def Host.meantQuotas : Quotas :=
  quotas h.isPythonActive h.isRustActive h.workers h.phpQuota h.shares.2.1 h.shares.2.2

/-- What is computed as long as the memory does not wrap around. -/
theorem coreAdaptiveInit_eq (hram : h.ram < 2 ^ 64) (hweb : 0 ≤ h.webRam) :
    coreAdaptiveInit h =
      { maxFd := h.maxFd
        totalRamMb := totalRamMb h.ram
        availableForWeb := h.webRam
        budgets := budgets h.isPhpActive h.isPythonActive h.isRustActive h.webRam
        workerMax := h.workers
        workerMin := h.workerMin h.workers
        quotas := h.meantQuotas
        poolSize := i32 (i32 (h.meantQuotas.php + h.meantQuotas.rust) + h.meantQuotas.python)
        eventBatchSize := if 1024 < h.workers then 1024 else h.workers
        queueCapacity := (queueCapacity h.maxFd h.workers).1
        unsigned := h.ramBytes :: ⟨64, h.webRam⟩ ::
          ((budgets h.isPhpActive h.isPythonActive h.isRustActive h.webRam).unsigned ++
            h.meantQuotas.unsigned ++ (queueCapacity h.maxFd h.workers).2) } := by
  have hrange := h.webRam_range hram hweb
  have havailable : (⟨64, h.webRam⟩ : Unsigned).Fits := by
    refine ⟨hweb, hrange.2.trans ?_⟩
    show (2 : Int) ^ 57 < 2 ^ 64
    decide
  obtain ⟨-, hphp, hpython, hrust⟩ :=
    budgets_eq h.isPhpActive h.isPythonActive h.isRustActive hrange.1 hrange.2
  have hworkers : h.workerMax (budgets h.isPhpActive h.isPythonActive h.isRustActive h.webRam).php
      (budgets h.isPhpActive h.isPythonActive h.isRustActive h.webRam).python
      (budgets h.isPhpActive h.isPythonActive h.isRustActive h.webRam).rust = h.workers := by
    rw [hphp, hpython, hrust]
    exact h.workerMax_eq
  have hquotas : quotas h.isPythonActive h.isRustActive h.workers h.phpQuota
      (budgets h.isPhpActive h.isPythonActive h.isRustActive h.webRam).python
      (budgets h.isPhpActive h.isPythonActive h.isRustActive h.webRam).rust = h.meantQuotas := by
    rw [hpython, hrust]
    rfl
  have hsub : totalRamMb h.ram - reservedRamMb (totalRamMb h.ram) = h.webRam := rfl
  have hbytes : h.ramBytes.value = h.ram := (h.ramBytes_fits_iff.mpr hram).value_eq
  unfold coreAdaptiveInit
  simp only [hbytes, hsub, havailable.value_eq, hworkers, hquotas]

/-- The parts of the memory are numbers, and those of Python and Rust are no more than all of it. -/
theorem Host.shares_range (hweb : 0 ≤ h.webRam) :
    h.shares.1 ≤ h.webRam ∧ 0 ≤ h.shares.2.1 ∧ 0 ≤ h.shares.2.2 ∧
      h.shares.2.1 + h.shares.2.2 ≤ h.webRam := by
  obtain ⟨hphp, hphple, hpython, hrust, hsum⟩ :=
    percentages_le h.isPhpActive h.isPythonActive h.isRustActive
  have hshare := (share_range hweb hphp hphple).2
  have hpythonShare := (share_range hweb hpython (by omega)).1
  have hrustShare := (share_range hweb hrust (by omega)).1
  refine ⟨hshare, hpythonShare, hrustShare, ?_⟩
  have hboth := (share_range hweb (Int.add_nonneg hpython hrust) hsum).2
  rw [Int.mul_add] at hboth
  show h.webRam * _ / 100 + h.webRam * _ / 100 ≤ h.webRam
  omega

/-- No operation wraps around exactly on a regular host. -/
theorem noWrap_iff : (∀ u ∈ (coreAdaptiveInit h).unsigned, u.Fits) ↔ h.Regular := by
  have hmb := h.webRam_nonneg_iff
  -- once the memory is as it is meant to be, the descriptors and the quotas are left
  have hrest (hram : h.ram < 2 ^ 64) (hweb : 0 ≤ h.webRam) :
      (∀ u ∈ (coreAdaptiveInit h).unsigned, u.Fits) ↔ h.maxFd < h.workers + 71582789 ∧
        (h.isPythonActive = true → h.isRustActive = true →
          max 0 (i32 (h.workers - h.phpQuota)) * h.shares.2.1 < 2 ^ 64) := by
    have hrange := h.webRam_range hram hweb
    obtain ⟨-, hpython, hrust, hsum⟩ := h.shares_range hweb
    obtain ⟨hbudgets, -⟩ :=
      budgets_eq h.isPhpActive h.isPythonActive h.isRustActive hrange.1 hrange.2
    have havailable : (⟨64, h.webRam⟩ : Unsigned).Fits := by
      refine ⟨hweb, hrange.2.trans ?_⟩
      show (2 : Int) ^ 57 < 2 ^ 64
      decide
    rw [coreAdaptiveInit_eq h hram hweb, List.forall_mem_cons, List.forall_mem_cons,
      List.forall_mem_append, List.forall_mem_append, Host.meantQuotas,
      quotas_fits hpython hrust (by omega), queueCapacity_fits]
    simp only [h.ramBytes_fits_iff, hram, havailable, true_and]
    exact ⟨fun hall => ⟨hall.2, hall.1.2⟩, fun hall => ⟨⟨hbudgets, hall.2⟩, hall.1⟩⟩
  constructor
  · intro hall
    have hram : h.ram < 2 ^ 64 := h.ramBytes_fits_iff.mp (hall _ List.mem_cons_self)
    have hweb : 0 ≤ h.webRam := by
      have havailable := hall _ (List.mem_cons_of_mem _ List.mem_cons_self)
      rw [(h.ramBytes_fits_iff.mpr hram).value_eq] at havailable
      exact havailable.1
    obtain ⟨hqueue, hquota⟩ := (hrest hram hweb).mp hall
    exact ⟨hram, hmb.mp hweb, hqueue, hquota⟩
  · intro hregular
    exact (hrest hregular.ram_lt (hmb.mpr hregular.ramMb)).mpr
      ⟨hregular.maxFd_lt, hregular.quota_lt⟩

/-- The limits are as they are meant to be exactly on a regular host. -/
theorem coreAdaptiveInit_meets_iff : (coreAdaptiveInit h).Meets ↔ h.Regular := by
  refine ⟨fun hmeets => (noWrap_iff h).mp hmeets.noWrap, fun hregular => ?_⟩
  have hnoWrap := (noWrap_iff h).mpr hregular
  have hweb := h.webRam_nonneg_iff.mpr hregular.ramMb
  have hworkers := h.workers_range
  have hphpQuota := phpQuota_range h
  obtain ⟨hphp, hpython, hrust, hsum⟩ := h.shares_range hweb
  have hrange := h.webRam_range hregular.ram_lt hweb
  obtain ⟨-, hphpEq, hpythonEq, hrustEq⟩ :=
    budgets_eq h.isPhpActive h.isPythonActive h.isRustActive hrange.1 hrange.2
  have htotal : h.webRam ≤ totalRamMb h.ram := by
    have hreserved := reservedRamMb_range (totalRamMb h.ram)
    unfold Host.webRam
    omega
  have hsisa := sisaJatah_cases (by omega : 0 ≤ h.workers) hworkers.2 hphpQuota.1 hphpQuota.2
  rw [coreAdaptiveInit_eq h hregular.ram_lt hweb] at hnoWrap ⊢
  have hquotaFits : ∀ u ∈ h.meantQuotas.unsigned, u.Fits := fun u hu =>
    hnoWrap u (List.mem_cons_of_mem _ (List.mem_cons_of_mem _
      (List.mem_append_left _ (List.mem_append_right _ hu))))
  have hsisaLt : sisaJatah h.workers h.phpQuota < 2 ^ 31 := by omega
  obtain ⟨hq, hqpython, hqrust, hqsum⟩ := quotas_eq hrust hsisaLt hquotaFits
  constructor
  · exact hnoWrap
  · exact htotal
  · show (budgets _ _ _ _).php ≤ _
    rw [hphpEq]
    exact hphp.trans htotal
  · show (budgets _ _ _ _).python ≤ _
    rw [hpythonEq]
    show h.shares.2.1 ≤ totalRamMb h.ram
    omega
  · show (budgets _ _ _ _).rust ≤ _
    rw [hrustEq]
    show h.shares.2.2 ≤ totalRamMb h.ram
    omega
  · exact queueCapacity_value hregular.maxFd_lt
  · exact hworkers.1
  · exact hworkers.2
  · show h.workerMin h.workers ≤ h.workers
    simp only [Host.workerMin]
    split <;> omega
  · show i32 (i32 (h.meantQuotas.php + h.meantQuotas.rust) + h.meantQuotas.python)
      = h.meantQuotas.php + h.meantQuotas.rust + h.meantQuotas.python
    change h.meantQuotas.php = h.phpQuota at hq
    change 0 ≤ h.meantQuotas.python at hqpython
    change 0 ≤ h.meantQuotas.rust at hqrust
    change h.meantQuotas.python + h.meantQuotas.rust ≤ _ at hqsum
    have hinner : i32 (h.meantQuotas.php + h.meantQuotas.rust)
        = h.meantQuotas.php + h.meantQuotas.rust := i32_of_range (by omega) (by omega)
    rw [hinner, i32_of_range (by omega) (by omega)]

end Whole

/-- A host of 512 MB with four cores and PHP. -/
def smallHost : Host where
  numCores := 4
  rlimCur := some 1024
  sysinfo := some (536870912, 1)
  php := ⟨1, [], 20⟩
  python := ⟨0, [], 0⟩
  rust := ⟨0, [], 0⟩
  phpFpmConfigPath := []
  phpFpmConfig := none

/-- The memory that is left behind the reserve of one GB wraps around. -/
theorem smallHost_wraps : ¬ (coreAdaptiveInit smallHost).Meets := by
  intro hmeets
  have hle : (coreAdaptiveInit smallHost).availableForWeb
      ≤ (coreAdaptiveInit smallHost).totalRamMb := hmeets.availableForWeb_le
  exact absurd hle (by decide +kernel)

end Halmos.Core
