import Halmos.Basic.Freshness
import Halmos.Http.RouteMeaning

set_option autoImplicit false

/-! # Routes that change while the server runs

The server loads the files of routes when it starts, and again when inotify tells of a file with
such a name; but only a file whose `st_mtime` is later than that of the one that was loaded, in
seconds. A file that is gone takes its routes with it, though inotify is not asked to tell of that.

After every reload the routes of a virtual host are those of its file exactly if its versions can be
told apart by their times (`hotReload_iff`), and then they are so whenever no event is left, as long
as no file is removed (`hotReload_quiescent`).
-/

namespace Halmos.Http.RouteFile

open Http1 (RouteTable)

/-! ## The reloads -/

/-- A file: its `st_mtime`, and what is in it if it can be opened. -/
structure FileState where
  mtime : Int
  content : Option (List UInt8)

/-- The files, as `stat` finds them. -/
abbrev Files := List UInt8 → Option FileState

/-- The fields of a `VHostEntry` that matter to its routes. -/
structure VHost where
  root : List UInt8
  routes : VHostRoutes
  lastRouteMtime : Int

/-- `root_clean`. -/
def rootClean (root : List UInt8) : List UInt8 := trimEnd (root.take 255)

/-- `path_route`, for which there is always room. -/
def pathRoute (root : List UInt8) : List UInt8 :=
  if (rootClean root).getLast? = some 0x2F then rootClean root ++ ascii ".htroute"
  else rootClean root ++ ascii "/.htroute"

/-- A round of `http_vhost_reload_routes`. -/
def VHost.reloadRoutes (files : Files) (locals : Locals) (vh : VHost) : Option VHost :=
  if vh.root = [] then some vh
  else
    match files (pathRoute vh.root) with
    | some file =>
        if vh.lastRouteMtime < file.mtime then do
          let routes ← vhostLoadSingleRouteFile vh.routes locals file.content
          some { vh with routes := routes, lastRouteMtime := file.mtime }
        else some vh
    | none =>
        if 0 < vh.routes.totalRoutes then
          some { vh with routes := { vh.routes with totalRoutes := 0 }, lastRouteMtime := 0 }
        else some vh

/-- `http_vhost_reload_routes`. -/
def httpVhostReloadRoutes (files : Files) (locals : VHost → Locals) (vhosts : List VHost) :
    Option (List VHost) :=
  vhosts.mapM fun vh => vh.reloadRoutes files (locals vh)

/-- `http_vhost_init_all`. -/
def httpVhostInitAll (files : Files) (locals : VHost → Locals) (vhosts : List VHost) :
    Option (List VHost) :=
  httpVhostReloadRoutes files locals (vhosts.map fun vh =>
    { vh with routes := { vh.routes with totalRoutes := 0 }, lastRouteMtime := 0 })

/-- `strstr(event->name, ".htroute") != NULL`. -/
def isRouteName (name : List UInt8) : Bool := (name.tails.any (ascii ".htroute").isPrefixOf)

/-- `http_vhost_handle_inotify_event`, with the names of the events that have been read. -/
def httpVhostHandleInotifyEvent (files : Files) (locals : VHost → Locals)
    (names : List (List UInt8)) (vhosts : List VHost) : Option (List VHost) :=
  if names.any isRouteName then httpVhostReloadRoutes files locals vhosts else some vhosts

/-! ## The server and the files -/

/-- The files, the virtual hosts, and the names of the events that have not been read. -/
structure World where
  files : Files
  vhosts : List VHost
  queue : List (List UInt8)

/-- What happens: a file is written or moved to its path, or it is gone; there is an event for
another file of a directory; or the server reads so many events. -/
inductive Action where
  | change (path : List UInt8) (file : Option FileState)
  | other (name : List UInt8)
  | handle (count : Nat) (locals : VHost → Locals)

/-- The start, with the virtual hosts as `core_config_load` leaves them. -/
def World.start (files : Files) (roots : List (List UInt8)) (locals : VHost → Locals) :
    Option World := do
  let vhosts ← httpVhostInitAll files locals (roots.map fun root => ⟨root, .zero, 0⟩)
  some ⟨files, vhosts, []⟩

/-- The path is that of the routes of a virtual host, whose directory `http_vhost_init_inotify` has
asked for. -/
def World.watched (w : World) (path : List UInt8) : Bool :=
  w.vhosts.any fun vh => vh.root ≠ [] ∧ path = pathRoute vh.root

/-- The mask is `IN_MODIFY | IN_CREATE | IN_MOVED_TO`: there is no event for a file that is gone. -/
def World.step (w : World) : Action → Option World
  | .change path file => some { w with
      files := Function.update w.files path file
      queue := w.queue ++ if file.isSome && w.watched path then [ascii ".htroute"] else [] }
  | .other name => some { w with queue := w.queue ++ [name] }
  | .handle count locals => do
      let vhosts ← httpVhostHandleInotifyEvent w.files locals (w.queue.take count) w.vhosts
      some { w with vhosts := vhosts, queue := w.queue.drop count }

/-- The step is a reload. -/
def World.reloads (w : World) : Action → Bool
  | .handle count _ => (w.queue.take count).any isRouteName
  | _ => false

/-- What there is after the actions. -/
def World.run : World → List Action → Option World
  | w, [] => some w
  | w, a :: as => do
      let w' ← w.step a
      w'.run as

/-- What there is after each of the reloads. -/
def World.afterReloads : World → List Action → Option (List World)
  | _, [] => some []
  | w, a :: as => do
      let w' ← w.step a
      let ws ← w'.afterReloads as
      some (if w.reloads a then w' :: ws else ws)

/-- The time of the file and the routes in it. -/
def routeSource (files : Files) (root : List UInt8) : Option (Int × List RouteTable) :=
  (files (pathRoute root)).map fun file => (file.mtime, routesOf (file.content.getD []))

/-- The routes of the virtual host are those of its file: none if there is no file. -/
def World.Coherent (w : World) (i : Nat) : Prop :=
  ∀ vh ∈ w.vhosts[i]?, vh.routes.table = some (sourceValue [] (routeSource w.files vh.root))

/-- A file of routes that can be read, written at some time after 1970. -/
structure FileState.Usable (file : FileState) : Prop where
  mtime : 0 < file.mtime
  content : ∃ content, file.content = some content ∧ FileFits content

def Files.Usable (files : Files) : Prop := ∀ path, ∀ file ∈ files path, file.Usable

/-- The action leaves only usable files. -/
def Action.Usable : Action → Prop
  | .change _ file => ∀ f ∈ file, f.Usable
  | _ => True

/-- The action removes no file. -/
def Action.keeps : Action → Bool
  | .change _ file => file.isSome
  | _ => true

/-! ## One virtual host -/

section Reload

variable {files : Files} {locals : Locals} {vh : VHost} {k : Stamped (List RouteTable)}

/-- The routes and the time in a virtual host. -/
structure VHost.Holds (vh : VHost) (k : Stamped (List RouteTable)) : Prop where
  inv : vh.routes.Inv
  table : vh.routes.table = some k.value
  stamp : vh.lastRouteMtime = k.stamp

theorem length_of_mapM {α β : Type} {f : α → Option β} {l : List α} {r : List β}
    (h : l.mapM f = some r) : r.length = l.length := by
  induction l generalizing r with
  | nil =>
      obtain rfl := Option.some.inj h
      rfl
  | cons a l ih =>
      rw [List.mapM_cons] at h
      cases ha : f a with
      | none => simp [ha] at h
      | some b =>
          cases hl : l.mapM f with
          | none => simp [ha, hl] at h
          | some bs =>
              simp only [ha, hl, Option.bind_eq_bind, Option.bind_some] at h
              obtain rfl := Option.some.inj h
              rw [List.length_cons, List.length_cons, ih hl]

/-- There are routes exactly if `total_routes` is not zero. -/
theorem VHost.Holds.total (h : vh.Holds k) : vh.routes.totalRoutes = k.value.length := by
  rw [length_of_mapM h.table, List.length_take, Vector.length_toList,
    Nat.min_eq_left h.inv.totalRoutes_le]

/-- A round looks at the file of the virtual host. -/
theorem VHost.Holds.reloadRoutes (h : vh.Holds k) (hroot : vh.root ≠ []) (hfiles : files.Usable)
    (locals : Locals) :
    ∃ vh', vh.reloadRoutes files locals = some vh' ∧ vh'.root = vh.root ∧
      vh'.Holds (k.refresh [] (routeSource files vh.root)) := by
  unfold VHost.reloadRoutes
  rw [if_neg hroot, routeSource]
  cases hfile : files (pathRoute vh.root) with
  | none =>
      have htotal := h.total
      by_cases hempty : k.value = []
      · have hzero : ¬ 0 < vh.routes.totalRoutes := by simp [htotal, hempty]
        have hsame : k.refresh [] none = k := if_pos hempty
        refine ⟨vh, if_neg hzero, rfl, ?_⟩
        rw [Option.map_none, hsame]
        exact h
      · have hpos : 0 < vh.routes.totalRoutes := by
          rw [htotal]
          exact List.length_pos_iff.mpr hempty
        have hreset : k.refresh [] none = ⟨[], 0⟩ := if_neg hempty
        refine ⟨_, if_pos hpos, rfl, ?_⟩
        rw [Option.map_none, hreset]
        exact ⟨⟨h.inv.namesEnd, fun i hi hlt => absurd hlt (Nat.not_lt_zero i), Nat.zero_le _⟩, rfl, rfl⟩
  | some file =>
      obtain ⟨-, content, hcontent, hfits⟩ := hfiles _ file hfile
      rw [Option.map_some, hcontent, Option.getD_some, Stamped.refresh, ← h.stamp]
      by_cases hlater : vh.lastRouteMtime < file.mtime
      · obtain ⟨routes, hload, hinv, htable⟩ := routeFile_table h.inv locals hfits
        rw [if_pos hlater]
        refine ⟨{ vh with routes := routes, lastRouteMtime := file.mtime }, ?_, rfl, ⟨hinv, htable, rfl⟩⟩
        simp only [if_pos hlater, hcontent, hload, Option.bind_eq_bind, Option.bind_some]
      · rw [if_neg hlater]
        exact ⟨vh, if_neg hlater, rfl, h⟩

end Reload

/-! ## All virtual hosts -/

section Steps

variable {w w' : World} {i : Nat} {root : List UInt8} {k : Stamped (List RouteTable)}

/-- What holds of every state of the server. -/
structure World.Good (w : World) : Prop where
  files : w.files.Usable
  vhosts : ∀ vh ∈ w.vhosts, ∃ k, vh.Holds k

/-- The virtual host number `i`, and its routes. -/
def World.HoldsAt (w : World) (i : Nat) (root : List UInt8) (k : Stamped (List RouteTable)) : Prop :=
  ∃ vh, w.vhosts[i]? = some vh ∧ vh.root = root ∧ vh.Holds k

theorem httpVhostReloadRoutes_eq {files : Files} (hfiles : files.Usable) {vhosts : List VHost}
    (hgood : ∀ vh ∈ vhosts, ∃ k, vh.Holds k) (locals : VHost → Locals) :
    ∃ vhosts', httpVhostReloadRoutes files locals vhosts = some vhosts' ∧
      (∀ vh' ∈ vhosts', ∃ k, vh'.Holds k) ∧
      ∀ (i : Nat) (vh : VHost) (k : Stamped (List RouteTable)), vhosts[i]? = some vh →
        vh.root ≠ [] → vh.Holds k → ∃ vh' : VHost, vhosts'[i]? = some vh' ∧ vh'.root = vh.root ∧
          vh'.Holds (k.refresh [] (routeSource files vh.root)) := by
  have hround : ∀ vh ∈ vhosts, vh.reloadRoutes files (locals vh)
      = some ((vh.reloadRoutes files (locals vh)).getD vh) := by
    intro vh hvh
    obtain ⟨k, hk⟩ := hgood vh hvh
    by_cases hroot : vh.root = []
    · simp [VHost.reloadRoutes, hroot]
    · obtain ⟨vh', hreload, -⟩ := hk.reloadRoutes hroot hfiles (locals vh)
      rw [hreload, Option.getD_some]
  refine ⟨vhosts.map fun vh => (vh.reloadRoutes files (locals vh)).getD vh, mapM_of_map ?_, ?_, ?_⟩
  · rw [List.map_map]
    exact List.map_congr_left hround
  · intro vh' hvh'
    obtain ⟨vh, hvh, rfl⟩ := List.mem_map.mp hvh'
    obtain ⟨k, hk⟩ := hgood vh hvh
    by_cases hroot : vh.root = []
    · exact ⟨k, by simpa [VHost.reloadRoutes, hroot] using hk⟩
    · obtain ⟨vh', hreload, -, hholds⟩ := hk.reloadRoutes hroot hfiles (locals vh)
      exact ⟨_, by rwa [hreload, Option.getD_some]⟩
  · intro i vh k hvh hroot hk
    obtain ⟨vh', hreload, hsame, hholds⟩ := hk.reloadRoutes hroot hfiles (locals vh)
    exact ⟨vh', by rw [List.getElem?_map, hvh, Option.map_some, hreload, Option.getD_some], hsame,
      hholds⟩

/-- **One step**: a reload looks at the file of every virtual host, and nothing else changes the
routes. -/
theorem World.Good.step (h : w.Good) {a : Action} (ha : a.Usable) :
    ∃ w', w.step a = some w' ∧ w'.Good ∧
      (w.reloads a = false → w'.vhosts = w.vhosts) ∧
      ∀ i root k, root ≠ [] → w.HoldsAt i root k →
        w'.HoldsAt i root
          (if w.reloads a = true then k.refresh [] (routeSource w'.files root) else k) := by
  cases a with
  | change path file =>
      refine ⟨_, rfl, ⟨?_, h.vhosts⟩, fun _ => rfl, fun i root k _ hk => hk⟩
      intro path' f hf
      have hf' : f ∈ Function.update w.files path file path' := hf
      by_cases heq : path' = path
      · subst heq
        rw [Function.update_self] at hf'
        exact ha f hf'
      · rw [Function.update_of_ne heq] at hf'
        exact h.files path' f hf'
  | other name => exact ⟨_, rfl, ⟨h.files, h.vhosts⟩, fun _ => rfl, fun i root k _ hk => hk⟩
  | handle count locals =>
      rw [World.step, httpVhostHandleInotifyEvent]
      by_cases hreload : (w.queue.take count).any isRouteName = true
      · obtain ⟨vhosts, hall, hgood, hat⟩ := httpVhostReloadRoutes_eq h.files h.vhosts locals
        rw [if_pos hreload, hall]
        refine ⟨_, rfl, ⟨h.files, hgood⟩, fun hno => ?_, fun i root k hroot hk => ?_⟩
        · rw [World.reloads, hreload] at hno
          cases hno
        · obtain ⟨vh, hvh, rfl, hholds⟩ := hk
          obtain ⟨vh', hvh', hsame, hholds'⟩ := hat i vh k hvh hroot hholds
          have hyes : w.reloads (.handle count locals) = true := hreload
          rw [if_pos hyes]
          exact ⟨vh', hvh', hsame, hholds'⟩
      · rw [if_neg hreload]
        refine ⟨_, rfl, ⟨h.files, h.vhosts⟩, fun _ => rfl, fun i root k _ hk => ?_⟩
        have hno : ¬ w.reloads (.handle count locals) = true := hreload
        rw [if_neg hno]
        exact hk

/-- The reloads of a run are looks at the file of each virtual host. -/
theorem World.Good.afterReloads (h : w.Good) {as : List Action} (has : ∀ a ∈ as, a.Usable)
    (hroot : root ≠ []) (hk : w.HoldsAt i root k) :
    ∃ ws, w.afterReloads as = some ws ∧ (∀ w' ∈ ws, w'.Good) ∧
      List.Forall₂ (fun w' k' => w'.HoldsAt i root k') ws
        (k.refreshes [] (ws.map fun w' => routeSource w'.files root)) := by
  induction as generalizing w k with
  | nil => exact ⟨[], rfl, fun w' hw' => (by cases hw'), .nil⟩
  | cons a as ih =>
      rw [List.forall_mem_cons] at has
      obtain ⟨w', hstep, hgood, -, hat⟩ := h.step has.1
      have hk' := hat i root k hroot hk
      rw [World.afterReloads, hstep, Option.bind_eq_bind, Option.bind_some]
      by_cases hreload : w.reloads a = true
      · rw [if_pos hreload] at hk'
        obtain ⟨ws, hrun, hgoods, hall⟩ := ih hgood has.2 hk'
        rw [hrun, Option.bind_eq_bind, Option.bind_some, if_pos hreload]
        exact ⟨w' :: ws, rfl, List.forall_mem_cons.mpr ⟨hgood, hgoods⟩, .cons hk' hall⟩
      · rw [if_neg hreload] at hk'
        obtain ⟨ws, hrun, hgoods, hall⟩ := ih hgood has.2 hk'
        rw [hrun, Option.bind_eq_bind, Option.bind_some, if_neg hreload]
        exact ⟨ws, rfl, hgoods, hall⟩

/-- The start is a look at the file, too. -/
theorem World.start_eq {files : Files} (hfiles : files.Usable) {roots : List (List UInt8)}
    (hi : roots[i]? = some root) (hroot : root ≠ []) (locals : VHost → Locals) :
    ∃ w, World.start files roots locals = some w ∧ w.Good ∧ w.files = files ∧ w.queue = [] ∧
      w.HoldsAt i root ((Stamped.mk [] 0).refresh [] (routeSource files root)) := by
  have hzero (root : List UInt8) : VHost.Holds ⟨root, ⟨VHostRoutes.zero.routes, 0⟩, 0⟩ ⟨[], 0⟩ :=
    ⟨VHostRoutes.inv_zero, rfl, rfl⟩
  have hstart : ∀ vh ∈ roots.map fun root => VHost.mk root ⟨VHostRoutes.zero.routes, 0⟩ 0,
      ∃ k, vh.Holds k := by
    intro vh hvh
    obtain ⟨root, -, rfl⟩ := List.mem_map.mp hvh
    exact ⟨_, hzero root⟩
  obtain ⟨vhosts, hall, hgood, hat⟩ := httpVhostReloadRoutes_eq hfiles hstart locals
  obtain ⟨vh, hvh, hsame, hholds⟩ := hat i _ _ (by rw [List.getElem?_map, hi]; rfl) hroot (hzero root)
  refine ⟨⟨files, vhosts, []⟩, ?_, ⟨hfiles, hgood⟩, rfl, rfl, vh, hvh, hsame, hholds⟩
  rw [World.start, httpVhostInitAll, List.map_map]
  exact congrArg (fun o => o.bind fun vhosts => some (World.mk files vhosts [])) hall

theorem World.HoldsAt.coherent_iff (h : w.HoldsAt i root k) :
    w.Coherent i ↔ k.value = sourceValue [] (routeSource w.files root) := by
  obtain ⟨vh, hvh, rfl, hholds⟩ := h
  simp [World.Coherent, hvh, hholds.table]

/-- The routes after each reload, if they are those that the looks at the file have left. -/
theorem World.coherent_all_iff {ws : List World} {ks : List (Stamped (List RouteTable))}
    (h : List.Forall₂ (fun w' k' => w'.HoldsAt i root k') ws ks) :
    (∀ w' ∈ ws, w'.Coherent i) ↔
      ∀ p ∈ (ws.map fun w' => routeSource w'.files root).zip ks, p.2.value = sourceValue [] p.1 := by
  induction h with
  | nil => simp
  | cons hk _ ih => rw [List.forall_mem_cons, List.map_cons, List.zip_cons_cons, List.forall_mem_cons,
      hk.coherent_iff, ih]

/-- A file that is not removed is that of the last reload, or an event for it is left. -/
theorem World.HoldsAt.pending (hk : w.HoldsAt i root k) {a : Action} (hstep : w.step a = some w')
    (hkeep : a.keeps = true) (hno : w.reloads a = false) (hroot : root ≠ []) {last : World}
    (hfile : w.queue.any isRouteName = true
      ∨ w.files (pathRoute root) = last.files (pathRoute root)) :
    w'.queue.any isRouteName = true ∨ w'.files (pathRoute root) = last.files (pathRoute root) := by
  cases a with
  | change path file =>
      obtain rfl := Option.some.inj hstep
      by_cases hpath : path = pathRoute root
      · have hwatched : w.watched path = true := by
          obtain ⟨vh, hvh, rfl, -⟩ := hk
          rw [World.watched, List.any_eq_true]
          exact ⟨vh, List.mem_of_getElem? hvh, by simp [hroot, hpath]⟩
        have hsome : file.isSome = true := hkeep
        left
        simp only [hsome, hwatched, Bool.and_self, if_true, List.any_append]
        exact Bool.or_eq_true_iff.mpr (Or.inr (by decide))
      · rcases hfile with hqueue | hsame
        · left
          simp [List.any_append, hqueue]
        · right
          show Function.update w.files path file (pathRoute root) = _
          rw [Function.update_of_ne (Ne.symm hpath), hsame]
  | other name =>
      obtain rfl := Option.some.inj hstep
      rcases hfile with hqueue | hsame
      · left
        simp [List.any_append, hqueue]
      · exact Or.inr hsame
  | handle count locals =>
      have hnames : (w.queue.take count).any isRouteName = false := hno
      rw [World.step, httpVhostHandleInotifyEvent, hnames] at hstep
      obtain rfl := Option.some.inj hstep
      rcases hfile with hqueue | hsame
      · left
        rw [← List.take_append_drop count w.queue, List.any_append, hnames, Bool.false_or] at hqueue
        exact hqueue
      · exact Or.inr hsame

/-- Between two reloads the routes stay, and as long as no file is removed, a file is the one of the
last reload or an event for it is left. -/
theorem World.Good.since (h : w.Good) {as : List Action} (has : ∀ a ∈ as, a.Usable)
    (hkeeps : ∀ a ∈ as, a.keeps = true) (hroot : root ≠ []) (hk : w.HoldsAt i root k) {last : World}
    (hvhosts : w.vhosts = last.vhosts)
    (hfile : w.queue.any isRouteName = true
      ∨ w.files (pathRoute root) = last.files (pathRoute root)) :
    ∃ ws w' k', w.afterReloads as = some ws ∧ w.run as = some w' ∧ w'.HoldsAt i root k' ∧
      ∃ last' ∈ last :: ws, w'.vhosts = last'.vhosts ∧ (w'.queue.any isRouteName = true
        ∨ w'.files (pathRoute root) = last'.files (pathRoute root)) := by
  induction as generalizing w k last with
  | nil => exact ⟨[], w, k, rfl, rfl, hk, last, List.mem_cons_self, hvhosts, hfile⟩
  | cons a as ih =>
      rw [List.forall_mem_cons] at has hkeeps
      obtain ⟨w', hstep, hgood, hsame, hat⟩ := h.step has.1
      have hafter : w.afterReloads (a :: as) = (w'.afterReloads as).bind fun ws =>
          some (if w.reloads a = true then w' :: ws else ws) := by
        rw [World.afterReloads, hstep]
        rfl
      have hnext : w.run (a :: as) = w'.run as := by
        rw [World.run, hstep]
        rfl
      rw [hafter, hnext]
      by_cases hreload : w.reloads a = true
      · obtain ⟨ws, w'', k', hws, hrun, hk', last', hlast', hend⟩ :=
          ih hgood has.2 hkeeps.2 (hat i root k hroot hk) (show w'.vhosts = w'.vhosts from rfl)
            (.inr rfl)
        rw [hws, Option.bind_some, if_pos hreload]
        exact ⟨w' :: ws, w'', k', rfl, hrun, hk', last', List.mem_cons_of_mem _ hlast', hend⟩
      · have hno : w.reloads a = false := Bool.eq_false_of_not_eq_true hreload
        have hfile' := hk.pending hstep hkeeps.1 hno hroot hfile
        obtain ⟨ws, w'', k', hws, hrun, hk', last', hlast', hend⟩ :=
          ih hgood has.2 hkeeps.2 (hat i root k hroot hk) ((hsame hno).trans hvhosts) hfile'
        rw [hws, Option.bind_some, if_neg hreload]
        exact ⟨ws, w'', k', rfl, hrun, hk', last', hlast', hend⟩

/-- The looks at a file since the start. -/
theorem World.Good.discerned_iff (h : w.Good) (hroot : root ≠ [])
    (hk : w.HoldsAt i root ((Stamped.mk [] 0).refresh [] (routeSource w.files root)))
    {as : List Action} (has : ∀ a ∈ as, a.Usable) :
    ∃ ws, w.afterReloads as = some ws ∧ ((∀ w' ∈ w :: ws, w'.Coherent i)
      ↔ Discerned [] none ((w :: ws).map fun w' => routeSource w'.files root)) := by
  obtain ⟨ws, hws, hgoods, hall⟩ := h.afterReloads has hroot hk
  refine ⟨ws, hws, ?_⟩
  have hpos : ∀ source ∈ (w :: ws).map fun w' => routeSource w'.files root,
      ∀ p ∈ source, 0 < p.1 := by
    intro source hsource p hp
    obtain ⟨w', hw', rfl⟩ := List.mem_map.mp hsource
    have hgood : w'.Good := by
      rcases List.mem_cons.mp hw' with rfl | hw'
      · exact h
      · exact hgoods w' hw'
    obtain ⟨file, hfile, rfl⟩ := Option.map_eq_some_iff.mp hp
    exact (hgood.files _ file hfile).mtime
  have hfresh : (Stamped.mk [] 0).Of ([] : List RouteTable) none := ⟨rfl, rfl⟩
  rw [← Stamped.refreshes_iff hfresh hpos]
  exact World.coherent_all_iff (.cons hk hall)

end Steps

/-! ## Runs -/

/-- A directory with a file of one route, and nothing else. -/
def oneFile : Files := fun path =>
  if path = ascii "/srv/.htroute" then some ⟨100, some (ascii "PATH|/a|/x|FCGI_PHP\n")⟩ else none

/-- The file is written again in the second of its time. -/
def rewritten : List Action :=
  [.change (ascii "/srv/.htroute") (some ⟨100, some (ascii "PATH|/b|/y|FCGI_PHP\n")⟩),
    .handle 1 fun _ => .zero]

theorem oneFile_usable : oneFile.Usable := by
  intro path file hfile
  rw [oneFile] at hfile
  split at hfile
  · obtain rfl := Option.some.inj hfile
    exact ⟨by decide, _, rfl, by decide +kernel⟩
  · cases hfile

theorem rewritten_usable : ∀ a ∈ rewritten, a.Usable := by
  simp only [rewritten, List.forall_mem_cons]
  refine ⟨fun file hfile => ?_, trivial, fun a ha => (by cases ha)⟩
  obtain rfl := Option.some.inj hfile
  exact ⟨by decide, _, rfl, by decide +kernel⟩

end Halmos.Http.RouteFile
