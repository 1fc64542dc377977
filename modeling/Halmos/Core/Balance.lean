import Halmos.Core.ConfigFile
import Mathlib.Data.Int.CardIntervalMod

set_option autoImplicit false

/-! # The balance of the backends

The nodes of a backend type are taken in turn by one counter, which requests of both protocols and
of all virtual hosts move. As long as all of them use a group of the same size, every node gets its
share of the requests (`turns_balanced`). The loader gives virtual hosts no nodes of their own, and
which the nodes are is read off the lists of addresses and ports in `halmos.conf`: a request takes
the entry of both lists at the place of its turn, or of the hash of its client (`listed_nodes`).
-/

namespace Halmos.Core.Balance

open Fcgi ConfigFile

/-! ## Turns -/

/-- The request takes a node of the backend type in turn. -/
def TakesTurn (config : BalancedGroups) (backend : Backend) (c : CreateCall) : Prop :=
  RoundRobin config c.req ∧ Backend.ofType c.req.backendType = backend

instance (config : BalancedGroups) (backend : Backend) (c : CreateCall) :
    Decidable (TakesTurn config backend c) := inferInstanceAs (Decidable (_ ∧ _))

/-- The indices taken in turn, for one backend type, by requests one after the other. -/
def chosen (config : BalancedGroups) (backend : Backend) : NextIdx → List CreateCall → List Int32
  | _, [] => []
  | next, c :: calls =>
      let o := c.choose config next
      (if TakesTurn config backend c then o.1.toList else []) ++ chosen config backend o.2 calls

section Turns

variable {config : BalancedGroups} {backend : Backend} {k : Nat}

theorem choose_eq (c : CreateCall) (next : NextIdx) :
    c.choose config next = chooseNode config c.req next := by cases c <;> rfl

/-- A turn is the remainder of the counter. -/
theorem choose_turn {c : CreateCall} (h : TakesTurn config backend c) (next : NextIdx) :
    (c.choose config next).1 = some (next backend % (cfgGroup config c.req).nodeCount) := by
  obtain ⟨⟨hpos, hhash⟩, rfl⟩ := h
  rw [choose_eq]
  simp only [chooseNode, if_neg (Int32.not_le.mpr hpos), if_neg hhash]

theorem chosen_append (next : NextIdx) (calls more : List CreateCall) :
    chosen config backend next (calls ++ more)
      = chosen config backend next calls
        ++ chosen config backend (runSteps (fun next c => (c.choose config next).2) next calls)
          more := by
  induction calls generalizing next with
  | nil => rfl
  | cons c calls ih => simp only [List.cons_append, chosen, ih, List.append_assoc, runSteps_cons]

/-- **The law of the turns**: the counter is shared, so that the turn before the `m`-th of a backend
type may have been one in another group. -/
theorem chosen_eq (calls : List CreateCall) :
    chosen config backend .init calls
      = (calls.filter (fun c => TakesTurn config backend c)).mapIdx
        (fun m c => Int32.ofNat m % (cfgGroup config c.req).nodeCount) := by
  induction calls using List.reverseRecOn with
  | nil => rfl
  | append_singleton calls c ih =>
      -- the counter is where the turns before the last request have left it
      have hcount : servedSince config calls backend
          = Int32.ofNat (calls.filter (fun c => TakesTurn config backend c)).length := by
        rw [servedSince_eq, turns, List.countP_eq_length_filter]
        rfl
      rw [chosen_append, ih, List.filter_append, List.mapIdx_append]
      by_cases hturn : TakesTurn config backend c
      · have hone : [c].filter (fun c => TakesTurn config backend c) = [c] :=
          List.filter_cons_of_pos (decide_eq_true hturn)
        simp only [chosen, if_pos hturn, choose_turn hturn, List.append_nil, hone]
        show _ ++ [servedSince config calls backend % _] = _
        rw [hcount]
        simp
      · simp [chosen, hturn]

/-- Small numbers have their remainders. -/
theorem ofNat_mod {m : Nat} (hm : m < 2 ^ 31) (hk : k < 2 ^ 31) :
    Int32.ofNat m % Int32.ofNat k = Int32.ofNat (m % k) := by
  have hle : m % k ≤ m := Nat.mod_le m k
  rw [← Int32.toInt_inj, Int32.toInt_mod, Int32.toInt_ofNat_of_lt hm, Int32.toInt_ofNat_of_lt hk,
    Int32.toInt_ofNat_of_lt (by omega)]
  exact (Int.ofNat_tmod m k).symm

/-- How often a remainder comes up below `n`. -/
theorem count_mod_range (n : Nat) (hk : 0 < k) {j : Nat} (hj : j < k) :
    ((List.range n).map (· % k)).count j = n / k + if j < n % k then 1 else 0 := by
  have hcard := Nat.count_modEq_card n hk j
  rw [Nat.mod_eq_of_lt hj, Nat.count] at hcard
  rw [← hcard, List.count, List.countP_map]
  refine List.countP_congr fun m _ => ?_
  simp [Nat.ModEq, Nat.mod_eq_of_lt hj]

/-- **Every node gets its share**: if all requests that take a node of the backend type in turn use
groups of `k` nodes, then after `n` of them each node has been chosen `n / k` times, and those in
front of the next one once more. -/
theorem turns_balanced (config : BalancedGroups) (backend : Backend) (k : Nat)
    (calls : List CreateCall) (hk : 1 ≤ k) (hmax : k ≤ maxBackendNodes)
    (hgroups : ∀ c ∈ calls, TakesTurn config backend c →
      (cfgGroup config c.req).nodeCount = Int32.ofNat k)
    (hturns : turns config backend calls ≤ 2 ^ 31) :
    ∀ j < k, (chosen config backend .init calls).count (Int32.ofNat j)
      = turns config backend calls / k
        + if j < turns config backend calls % k then 1 else 0 := by
  intro j hj
  have hnodes : maxBackendNodes = 8 := rfl
  have hchosen : chosen config backend .init calls
      = ((List.range (turns config backend calls)).map (· % k)).map Int32.ofNat := by
    have hlength : (calls.filter (fun c => TakesTurn config backend c)).length
        = turns config backend calls := by
      rw [turns, List.countP_eq_length_filter]
      rfl
    rw [chosen_eq, List.map_map]
    refine List.ext_getElem (by simp [hlength]) ?_
    intro m hm _
    rw [List.length_mapIdx] at hm
    obtain ⟨hcall, hturn⟩ := List.mem_filter.mp (List.getElem_mem hm)
    simp only [List.getElem_mapIdx, List.getElem_map, List.getElem_range, Function.comp_apply]
    rw [hgroups _ hcall (of_decide_eq_true hturn), ofNat_mod (by omega) (by omega)]
  rw [hchosen, ← count_mod_range _ hk hj, List.count, List.count, List.countP_map]
  refine List.countP_congr fun m hm => ?_
  obtain ⟨i, -, rfl⟩ := List.mem_map.mp hm
  have hi : i % k < k := Nat.mod_lt i hk
  -- indices of nodes are small
  have hinj : Int32.ofNat (i % k) = Int32.ofNat j ↔ i % k = j := by
    rw [← Int32.toInt_inj, Int32.toInt_ofNat_of_lt (by omega), Int32.toInt_ofNat_of_lt (by omega)]
    omega
  simp [hinj]

end Turns

/-- Five requests for three nodes. -/
theorem turns_balanced_five :
    (chosen threeNodes .php .init (List.replicate 5 (.http1 phpRequest))).count (Int32.ofNat 1)
      = 2 := by
  have hturns : turns threeNodes .php (List.replicate 5 (.http1 phpRequest)) = 5 := by decide
  have hcount := turns_balanced threeNodes .php 3 (List.replicate 5 (.http1 phpRequest)) (by decide)
    (by decide) (fun c hc _ => by rw [List.eq_of_mem_replicate hc]; rfl) (by rw [hturns]; decide) 1
    (by decide)
  rw [hturns] at hcount
  exact hcount

/-! ## The nodes in the file -/

/-- The keys of the lists of a backend type: its ports, or its addresses. -/
def listKey : (backend : Backend) → (isPort : Bool) → List UInt8
  | .php, false => ascii "php_server"
  | .php, true => ascii "php_port"
  | .rust, false => ascii "rust_server"
  | .rust, true => ascii "rust_port"
  | .python, false => ascii "python_server"
  | .python, true => ascii "python_port"

def groupOf (c : Config) : Backend → ConfigFile.BackendGroup
  | .php => c.php
  | .rust => c.rust
  | .python => c.python

/-- The groups that requests choose from. -/
def groupsOf (c : Config) : BalancedGroups :=
  ⟨c.php.toBalancedGroup, c.rust.toBalancedGroup, c.python.toBalancedGroup⟩

/-- The value a key has in the end. -/
def lastValue (key : List UInt8) (settings : List (List UInt8 × List UInt8)) : Option (List UInt8) :=
  settings.foldl (fun last s => if s.1 = key then some s.2 else last) none

/-- An entry of a list, with the blanks around it. -/
structure Entry where
  indent : List UInt8
  word : List UInt8
  trail : List UInt8

def Entry.text (e : Entry) : List UInt8 := e.indent ++ e.word ++ e.trail

/-- A list in the file. -/
def listText (entries : List Entry) : List UInt8 := List.intercalate [0x2C] (entries.map Entry.text)

/-- The parts of an entry are what they are written as. -/
structure Entry.Valid (e : Entry) : Prop where
  indent : ∀ c ∈ e.indent, isSpace c = true
  trail : ∀ c ∈ e.trail, isSpace c = true
  nonempty : e.word ≠ []
  comma : 0x2C ∉ e.word
  first : ∀ c ∈ e.word.head?, isSpace c = false
  last : ∀ c ∈ e.word.getLast?, isSpace c = false

section Listed

variable {backend : Backend} {c : Config} {entries : List Entry}

theorem groupsOf_group : (groupsOf c).group backend = (groupOf c backend).toBalancedGroup := by
  cases backend <;> rfl

theorem Entry.Valid.trim_eq {e : Entry} (h : e.Valid) : ConfigFile.trim e.text = e.word := by
  unfold Entry.text
  rw [ConfigFile.trim_append_blanks h.trail, ConfigFile.trim_append h.indent]
  exact ConfigFile.trim_eq h.first h.last

theorem Entry.Valid.of_ends {e : Entry} (hindent : e.indent.all isSpace = true)
    (htrail : e.trail.all isSpace = true) (hne : e.word ≠ []) (hcomma : 0x2C ∉ e.word)
    (hfirst : isSpace (e.word.head hne) = false) (hlast : isSpace (e.word.getLast hne) = false) :
    e.Valid := by
  refine ⟨List.all_eq_true.mp hindent, List.all_eq_true.mp htrail, hne, hcomma, ?_, ?_⟩
  · rw [List.head?_eq_some_head hne]
    exact fun c hc => Option.some.inj hc ▸ hfirst
  · rw [List.getLast?_eq_some_getLast hne]
    exact fun c hc => Option.some.inj hc ▸ hlast

/-- `strtok` finds the entries. -/
theorem tokens_listText (h : ∀ e ∈ entries, e.Valid) :
    tokens 0x2C (listText entries) = entries.map Entry.text := by
  apply tokens_intercalate
  intro part hpart
  obtain ⟨e, he, rfl⟩ := List.mem_map.mp hpart
  have hvalid := h e he
  have hblank : ∀ s : List UInt8, (∀ c ∈ s, isSpace c = true) → 0x2C ∉ s := by
    intro s hs hmem
    exact absurd (hs _ hmem) (by decide)
  refine ⟨?_, ?_⟩
  · simp [Entry.text, hvalid.nonempty]
  · simp only [Entry.text, List.mem_append, not_or]
    exact ⟨⟨hblank _ hvalid.indent, hvalid.comma⟩, hblank _ hvalid.trail⟩

theorem lastValue_append (key : List UInt8) (settings : List (List UInt8 × List UInt8))
    (s : List UInt8 × List UInt8) :
    lastValue key (settings ++ [s]) = if s.1 = key then some s.2 else lastValue key settings := by
  simp [lastValue]

theorem setGlobals_append (settings : List (List UInt8 × List UInt8)) (s : List UInt8 × List UInt8)
    (c : Config) : setGlobals (settings ++ [s]) c = setGlobal s.1 s.2 (setGlobals settings c) := by
  simp [setGlobals]

/-- Two groups agree in their ports, or in their addresses. -/
def SameList (isPort : Bool) (g g' : ConfigFile.BackendGroup) : Prop :=
  if isPort = true then g.ports = g'.ports else g.ips = g'.ips ∧ g.nodeCount = g'.nodeCount

/-- A list is set by its own key only. -/
theorem setGlobal_list (isPort : Bool) (key value : List UInt8) (c : Config) :
    (key = listKey backend isPort →
      groupOf (setGlobal key value c) backend = parseCsvToGroup value (groupOf c backend) isPort) ∧
    (key ≠ listKey backend isPort →
      SameList isPort (groupOf (setGlobal key value c) backend) (groupOf c backend)) := by
  constructor
  · rintro rfl
    cases backend <;> cases isPort <;> rfl
  · intro hne
    have hall : ∀ s ∈ globalSettings, s.1 ≠ listKey backend isPort →
        SameList isPort (groupOf (s.2 value c) backend) (groupOf c backend) := by
      cases backend <;> cases isPort <;>
        simp [globalSettings, groupOf, listKey, parseCsvToGroup, SameList]
    unfold setGlobal
    cases hfind : globalSettings.find? (fun s => s.1 = key) with
    | none => cases isPort <;> simp [SameList]
    | some s =>
        have hkey : s.1 = key := by simpa using List.find?_some hfind
        exact hall s (List.mem_of_find?_eq_some hfind) (hkey ▸ hne)

/-- And the last value of that key counts. -/
theorem setGlobals_list (isPort : Bool) {settings : List (List UInt8 × List UInt8)}
    {value : List UInt8} (h : lastValue (listKey backend isPort) settings = some value) (c : Config) :
    ∃ g, SameList isPort (groupOf (setGlobals settings c) backend)
      (parseCsvToGroup value g isPort) := by
  -- from the end: a list is what its last line makes of it
  induction settings using List.reverseRecOn with
  | nil => cases h
  | append_singleton settings s ih =>
      obtain ⟨hset, hkeep⟩ := @setGlobal_list backend isPort s.1 s.2 (setGlobals settings c)
      rw [lastValue_append] at h
      rw [setGlobals_append]
      by_cases hkey : s.1 = listKey backend isPort
      · rw [if_pos hkey] at h
        cases h
        refine ⟨groupOf (setGlobals settings c) backend, ?_⟩
        rw [hset hkey]
        cases isPort <;> simp [SameList]
      · rw [if_neg hkey] at h
        obtain ⟨g, hg⟩ := ih h
        refine ⟨g, ?_⟩
        have hsame := hkeep hkey
        cases isPort <;> simp_all [SameList]

/-- What the settings say of the nodes of a backend type: the entries of both lists, with the
numbers of the ports. -/
structure Nodes (backend : Backend) (settings : List (List UInt8 × List UInt8))
    (servers ports : List Entry) (numbers : List Nat) : Prop where
  serverList : lastValue (listKey backend false) settings = some (listText servers)
  portList : lastValue (listKey backend true) settings = some (listText ports)
  valid : ∀ e ∈ servers ++ ports, e.Valid
  fits : ∀ e ∈ servers, e.word.length < 64
  numerals : ports.map Entry.word = numbers.map (numeral 10)
  ints : ∀ n ∈ numbers, n < 2 ^ 31
  same : numbers.length = servers.length
  nonempty : 1 ≤ servers.length
  room : servers.length ≤ maxBackendNodes

variable {settings : List (List UInt8 × List UInt8)} {servers ports : List Entry}
  {numbers : List Nat}

theorem Nodes.ports_length (h : Nodes backend settings servers ports numbers) :
    ports.length = servers.length := by
  calc ports.length = (ports.map Entry.word).length := (List.length_map _).symm
    _ = numbers.length := by rw [h.numerals, List.length_map]
    _ = servers.length := h.same

/-- The list of addresses. -/
theorem parseCsvToGroup_ips (h : ∀ e ∈ servers, e.Valid) (hroom : servers.length ≤ maxBackendNodes)
    (g : ConfigFile.BackendGroup) {i : Nat} (hi : i < maxBackendNodes) {e : Entry}
    (he : servers[i]? = some e) (hfits : e.word.length < 64) :
    (parseCsvToGroup (listText servers) g false).ips[i] = e.word
      ∧ (parseCsvToGroup (listText servers) g false).nodeCount = Int32.ofNat servers.length := by
  have htokens : (tokens 0x2C (listText servers)).take maxBackendNodes
      = servers.map Entry.text := by
    rw [tokens_listText h, List.take_of_length_le (by simpa using hroom)]
  have hvalid : e.Valid := h e (List.mem_of_getElem? he)
  constructor
  · calc (parseCsvToGroup (listText servers) g false).ips[i]
        = ((servers.map Entry.text)[i]?).elim g.ips[i]
            (fun t => printTo 64 (ConfigFile.trim t)) := by
          simp [parseCsvToGroup, htokens]
      _ = printTo 64 e.word := by simp [he, hvalid.trim_eq]
      _ = e.word := List.take_of_length_le (by omega)
  · simp [parseCsvToGroup, htokens]

/-- The list of ports. -/
theorem parseCsvToGroup_ports (h : ∀ e ∈ ports, e.Valid) (hroom : ports.length ≤ maxBackendNodes)
    (g : ConfigFile.BackendGroup) {i : Nat} (hi : i < maxBackendNodes) {e : Entry}
    (he : ports[i]? = some e) :
    (parseCsvToGroup (listText ports) g true).ports[i] = atoi e.word := by
  have htokens : (tokens 0x2C (listText ports)).take maxBackendNodes = ports.map Entry.text := by
    rw [tokens_listText h, List.take_of_length_le (by simpa using hroom)]
  have hvalid : e.Valid := h e (List.mem_of_getElem? he)
  calc (parseCsvToGroup (listText ports) g true).ports[i]
      = ((ports.map Entry.text)[i]?).elim g.ports[i] (fun t => atoi (ConfigFile.trim t)) := by
        simp [parseCsvToGroup, htokens]
    _ = atoi e.word := by simp [he, hvalid.trim_eq]

/-- **The group behind the settings**: the nodes of both lists, place by place. -/
theorem Nodes.group (h : Nodes backend settings servers ports numbers) (c : Config) :
    ((groupsOf (setGlobals settings c)).group backend).nodeCount = Int32.ofNat servers.length ∧
    ∀ (i : Nat) (e : Entry) (n : Nat), servers[i]? = some e → numbers[i]? = some n →
      ((groupsOf (setGlobals settings c)).group backend).node (Int32.ofNat i)
        = some (e.word, (n : Int)) := by
  obtain ⟨g, hips, hcount⟩ : ∃ g, (groupOf (setGlobals settings c) backend).ips
      = (parseCsvToGroup (listText servers) g false).ips
      ∧ (groupOf (setGlobals settings c) backend).nodeCount
        = (parseCsvToGroup (listText servers) g false).nodeCount :=
    setGlobals_list false h.serverList c
  obtain ⟨g', hports⟩ : ∃ g, (groupOf (setGlobals settings c) backend).ports
      = (parseCsvToGroup (listText ports) g true).ports := setGlobals_list true h.portList c
  have hvalid := List.forall_mem_append.mp h.valid
  have hnodes : maxBackendNodes = 8 := rfl
  have hroom := h.room
  have hread {i : Nat} (hi : i < maxBackendNodes) {e : Entry} (he : servers[i]? = some e) :=
    parseCsvToGroup_ips hvalid.1 h.room g hi he (h.fits e (List.mem_of_getElem? he))
  rw [groupsOf_group]
  constructor
  · have hsome := h.nonempty
    have hfirst := List.getElem?_eq_getElem (show 0 < servers.length by omega)
    exact hcount.trans (hread (by omega) hfirst).2
  · intro i e n he hn
    have hi : i < servers.length := (List.getElem?_eq_some_iff.mp he).1
    have hsmall : (Int32.ofNat i).toInt = i := Int32.toInt_ofNat_of_lt (by omega)
    -- the port at the same place
    have hport : (ports.map Entry.word)[i]? = some (numeral 10 n) := by
      rw [h.numerals, List.getElem?_map, hn]
      rfl
    rw [List.getElem?_map] at hport
    obtain ⟨p, hp, hword⟩ := Option.map_eq_some_iff.mp hport
    have hip : (groupOf (setGlobals settings c) backend).ips[i] = e.word := by
      simp only [hips]
      exact (hread (by omega) he).1
    have hno : (groupOf (setGlobals settings c) backend).ports[i] = (n : Int) := by
      simp only [hports]
      rw [parseCsvToGroup_ports hvalid.2 (by rw [h.ports_length]; exact h.room) g' (by omega) hp,
        hword, atoi_numeral (h.ints n (List.mem_of_getElem? hn))]
    unfold BalancedGroup.node
    rw [if_pos (by omega), hsmall, Int.toNat_natCast]
    simp [hip, hno, show i < maxBackendNodes by omega]

end Listed

/-- Virtual hosts without nodes of their own use the groups of the server. -/
theorem cfgGroup_global {config : BalancedGroups} {backend : Backend} {req : NodeRequest}
    (hbackend : Backend.ofType req.backendType = backend)
    (hglobal : ∀ vh, req.vhostContext = some vh → (vh.group backend).nodeCount ≤ 0) :
    cfgGroup config req = config.group backend := by
  unfold cfgGroup
  rw [hbackend]
  cases hvhost : req.vhostContext with
  | none => rfl
  | some vh => exact if_neg (Int32.not_lt.mpr (hglobal vh hvhost))

/-- The place of a request in a group of `k` nodes: the remainder of its turn, or of the hash of its
client. -/
theorem choose_place {config : BalancedGroups} {c : CreateCall} {group : BalancedGroup} {k : Nat}
    (hgroup : cfgGroup config c.req = group) (hcount : group.nodeCount = Int32.ofNat k)
    (hk : 1 ≤ k) (hmax : k ≤ maxBackendNodes) (calls : List CreateCall)
    (hturns : group.lbStrategy ≠ ascii "ip_hash" →
      turns config (Backend.ofType c.req.backendType) calls < 2 ^ 31) :
    (c.choose config (servedSince config calls)).1
      = some (Int32.ofNat ((if group.lbStrategy = ascii "ip_hash" then (hashIp c.req.clientIp).toNat
        else turns config (Backend.ofType c.req.backendType) calls) % k)) := by
  have hnodes : maxBackendNodes = 8 := rfl
  have hsize : (Int32.ofNat k).toInt = k := Int32.toInt_ofNat_of_lt (by omega)
  have hpos : ¬ Int32.ofNat k ≤ 0 := by
    have hzero : (0 : Int32).toInt = 0 := rfl
    rw [Int32.le_iff_toInt_le]
    omega
  rw [choose_eq]
  simp only [chooseNode, hgroup, hcount, if_neg hpos]
  by_cases hhash : group.lbStrategy = ascii "ip_hash"
  · -- the remainder is taken of unsigned numbers, and the index is signed again
    have hlt : (hashIp c.req.clientIp).toNat % k < k := Nat.mod_lt _ hk
    have hsmall : (Int32.ofNat k).toUInt32.toNat = k := by
      have hnat := @toNat_toUInt32 (Int32.ofNat k) (by omega)
      omega
    have hrest : (hashIp c.req.clientIp % (Int32.ofNat k).toUInt32).toNat
        = (hashIp c.req.clientIp).toNat % k := by
      rw [UInt32.toNat_mod, hsmall]
    rw [if_pos hhash, if_pos hhash]
    refine congrArg some (Int32.toInt_inj.mp ?_)
    rw [toInt_toInt32 (by omega), hrest, Int32.toInt_ofNat_of_lt (by omega)]
  · rw [if_neg hhash, if_neg hhash, servedSince_eq, ofNat_mod (hturns hhash) (by omega)]

/-- **Which node a request gets**: with `k` addresses and ports in the file, the entry of both lists
at the place of its turn, or of the hash of its client, modulo `k`. Neither the layout of the file
nor its virtual hosts matter. -/
theorem listed_nodes (backend : Backend) {lines : List ConfigLine}
    (hlines : ∀ line ∈ lines, line.Valid) {servers ports : List Entry} {numbers : List Nat}
    (hnodes : Nodes backend (globalsOf false (withinRoom maxVhosts
      (lines.filterMap ConfigLine.statement))) servers ports numbers)
    (calls : List CreateCall) (c : CreateCall) (hbackend : Backend.ofType c.req.backendType = backend)
    (hglobal : ∀ vh, c.req.vhostContext = some vh → (vh.group backend).nodeCount ≤ 0) :
    let config := groupsOf (coreConfigLoad .empty (some (fileText lines))).2
    let place :=
      if (config.group backend).lbStrategy = ascii "ip_hash" then (hashIp c.req.clientIp).toNat
      else turns config backend calls
    ((config.group backend).lbStrategy ≠ ascii "ip_hash" → turns config backend calls < 2 ^ 31) →
      ∃ idx e n, (c.choose config (servedSince config calls)).1 = some idx
        ∧ servers[place % servers.length]? = some e ∧ numbers[place % servers.length]? = some n
        ∧ (config.group backend).node idx = some (e.word, (n : Int)) := by
  intro config place hturns
  have hk := hnodes.nonempty
  have hconfig : config = groupsOf (setGlobals (globalsOf false (withinRoom maxVhosts
      (lines.filterMap ConfigLine.statement))) .empty) := by
    show groupsOf (coreConfigLoad .empty (some (fileText lines))).2 = _
    rw [coreConfigLoad_meaning (by decide) hlines]
    rfl
  obtain ⟨hcount, hnode⟩ := hnodes.group .empty
  rw [← hconfig] at hcount hnode
  have hlt : place % servers.length < servers.length := Nat.mod_lt _ (by omega)
  have hidx : (c.choose config (servedSince config calls)).1
      = some (Int32.ofNat (place % servers.length)) := by
    have hplace := choose_place (cfgGroup_global hbackend hglobal) hcount hk hnodes.room calls
      (by rw [hbackend]; exact hturns)
    rw [hbackend] at hplace
    exact hplace
  have hltno : place % servers.length < numbers.length := by
    rw [hnodes.same]
    exact hlt
  have hserver := List.getElem?_eq_getElem hlt
  have hnumber := List.getElem?_eq_getElem hltno
  exact ⟨_, _, _, hidx, hserver, hnumber, hnode _ _ _ hserver hnumber⟩

/-- With two nodes in the file, the fourth request gets the second. -/
theorem listed_nodes_fourth :
    let lines := [ConfigLine.header [] (ascii "Backend") [],
      .setting [] (ascii "php_server") [0x20] [0x20] (ascii "10.0.0.1, 10.0.0.2") [] none,
      .setting [] (ascii "php_port") [] [] (ascii "9000,9001") [0x20] (some (ascii "fpm"))]
    let config := groupsOf (coreConfigLoad .empty (some (fileText lines))).2
    ∃ idx, (CreateCall.choose config (servedSince config (List.replicate 3 (.http1 phpRequest)))
        (.http2 phpRequest)).1 = some idx
      ∧ config.php.node idx = some (ascii "10.0.0.2", 9001) := by
  intro lines config
  have hlines : ∀ line ∈ lines, line.Valid := by
    simp only [lines, List.forall_mem_cons]
    refine ⟨⟨⟨rfl, by decide, by decide, ⟨by decide, by decide⟩, by decide, by decide, by decide,
      by decide⟩, by decide⟩, ⟨⟨rfl, ?_, by decide, rfl, rfl, ?_, rfl, by decide, by decide⟩,
      by decide⟩, ⟨⟨rfl, ?_, by decide, rfl, rfl, ?_, rfl, by decide, by decide⟩, by decide⟩,
      fun _ h => (by cases h)⟩
    all_goals exact .of_ends (by decide) (by decide) (by decide) (by decide) (by decide)
  have hnodes : Nodes .php (globalsOf false (withinRoom maxVhosts
      (lines.filterMap ConfigLine.statement)))
      [⟨[], ascii "10.0.0.1", []⟩, ⟨[0x20], ascii "10.0.0.2", []⟩]
      [⟨[], ascii "9000", []⟩, ⟨[], ascii "9001", []⟩] [9000, 9001] := by
    constructor
    case valid =>
      simp only [List.cons_append, List.nil_append, List.forall_mem_cons]
      refine ⟨?_, ?_, ?_, ?_, fun _ h => (by cases h)⟩
      all_goals exact .of_ends (by decide) (by decide) (by decide) (by decide) (by decide) (by decide)
    all_goals decide
  have hload : config = groupsOf (setGlobals (globalsOf false (withinRoom maxVhosts
      (lines.filterMap ConfigLine.statement))) .empty) := by
    show groupsOf (coreConfigLoad .empty (some (fileText lines))).2 = _
    rw [coreConfigLoad_meaning (by decide) hlines]
    rfl
  have hrule : (config.group .php).lbStrategy ≠ ascii "ip_hash" := by
    rw [hload]
    decide
  have hturns : turns config .php (List.replicate 3 (.http1 phpRequest)) = 3 := by
    rw [hload]
    decide
  obtain ⟨idx, e, n, hidx, he, hn, hnode⟩ := listed_nodes .php hlines hnodes
    (List.replicate 3 (.http1 phpRequest)) (.http2 phpRequest) rfl (fun _ h => by cases h)
    (fun _ => by rw [hturns]; decide)
  refine ⟨idx, hidx, hnode.trans ?_⟩
  rw [if_neg hrule, hturns] at he hn
  cases he
  cases hn
  rfl

end Halmos.Core.Balance
