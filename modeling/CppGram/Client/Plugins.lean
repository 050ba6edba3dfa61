import CppGram.Core.Machine
import CppGram.Lib.Tables
import CppGram.Lib.Transition

/-!
# The plugin manager

`PluginManager` (C++ `plugin.cpp`). Its functions take the mutex for a moment and call the hooks of a
plugin without it, so a hook may call the manager again, and so may other threads. A function is
therefore cut at its hook: `Call` is a call that waits for a hook to end, and `step` starts a call, or
ends the hook that a call waits for, by a return or an exception. The plugins may be of any type; what a
name is, is an argument.
-/

namespace CppGram

/-- C++ `class PluginManager`; `ρ` is what stands for a `std::shared_ptr<IPlugin>`. -/
structure PluginManager (ρ : Type) where
  plugins : List (Text × ρ) := []

namespace PluginManager

variable {ρ : Type}

/-- `plugins_.find(name)`. -/
def find (m : PluginManager ρ) (name : Text) : Option ρ :=
  (Tables.find Prod.fst m.plugins name).map Prod.snd

/-- `plugins_.erase(name)`. -/
def erase (m : PluginManager ρ) (name : Text) : PluginManager ρ :=
  ⟨Tables.delete Prod.fst m.plugins name⟩

/-- The first part of `register_plugin`; `none` where it returns `false`. -/
def enter (m : PluginManager ρ) (plugin : Option ρ) (name : Text) :
    Option (ρ × PluginManager ρ) :=
  match plugin with
  | none => none
  | some plugin =>
    if name = [] then none
    else if (m.find name).isSome then none
    else some (plugin, ⟨Tables.upsert Prod.fst (name, plugin) m.plugins⟩)

/-- The first part of `unregister_plugin`; `none` where it returns `false`. -/
def take (m : PluginManager ρ) (name : Text) : Option (ρ × PluginManager ρ) :=
  match m.find name with
  | none => none
  | some target => some (target, m.erase name)

/-- The first part of `unload_all`, for an order of the table. -/
def takeAll (m : PluginManager ρ) (order : List Text) : List ρ × PluginManager ρ :=
  (order.filterMap m.find, ⟨[]⟩)

/-! ## What the parts do to the table -/

section
variable {m m' : PluginManager ρ} {plugin : Option ρ} {r target : ρ} {name : Text}

/-- What is found is there under its name. -/
lemma mem_of_find (found : m.find name = some r) : (name, r) ∈ m.plugins := by
  obtain ⟨row, there, rfl⟩ := Option.map_eq_some_iff.mp found
  have key : row.1 = name := Tables.find_key there
  rw [← key]
  exact Tables.mem_of_find there

/-- A row is found under its name. -/
lemma find_of_mem (unique : Tables.Unique Prod.fst m.plugins) {row : Text × ρ}
    (inside : row ∈ m.plugins) : m.find row.1 = some row.2 := by
  rw [find, (Tables.mem_iff_find unique row).mp inside, Option.map_some]

/-- A plugin that is entered stands behind the others. -/
lemma enter_some (entered : m.enter plugin name = some (r, m')) :
    plugin = some r ∧ m'.plugins = m.plugins ++ [(name, r)] ∧
      (Tables.Unique Prod.fst m.plugins → Tables.Unique Prod.fst m'.plugins) := by
  cases plugin with
  | none => cases entered
  | some plugin =>
    simp only [enter] at entered
    split at entered
    · cases entered
    · split at entered
      · cases entered
      · next absent =>
        cases entered
        refine ⟨rfl, Tables.upsert_absent ?_, fun unique => unique.upsert _⟩
        rwa [Option.not_isSome_iff_eq_none, find, Option.map_eq_none_iff] at absent

/-- What is taken was found, and is erased. -/
lemma take_some (taken : m.take name = some (target, m')) :
    m.find name = some target ∧ m' = m.erase name := by
  rw [take] at taken
  split at taken
  · cases taken
  · next found =>
    cases taken
    exact ⟨found, rfl⟩

/-- The plugins are the one that is erased and the others. -/
lemma erase_perm (unique : Tables.Unique Prod.fst m.plugins) (found : m.find name = some r) :
    m.plugins.Perm ((name, r) :: (m.erase name).plugins) := by
  obtain ⟨row, there, rfl⟩ := Option.map_eq_some_iff.mp found
  have key : row.1 = name := Tables.find_key there
  have perm := Tables.perm_cons_delete unique there
  rwa [← Prod.eta row, key] at perm

/-- Whatever is erased is what was found. -/
lemma erase_registered (unique : Tables.Unique Prod.fst m.plugins) :
    (m.plugins.map Prod.snd).Perm
      ((m.find name).toList ++ (m.erase name).plugins.map Prod.snd) := by
  cases found : m.find name with
  | some r => exact (erase_perm unique found).map Prod.snd
  | none =>
    have kept : (m.erase name).plugins = m.plugins := by
      refine List.filter_eq_self.mpr fun row inside => decide_eq_true fun same => ?_
      cases (same ▸ find_of_mem unique inside).symm.trans found
    rw [kept]
    exact List.Perm.refl _

lemma erase_sublist : (m.erase name).plugins.Sublist m.plugins := List.filter_sublist

lemma name_of_mem_erase {row : Text × ρ} (inside : row ∈ (m.erase name).plugins) : row.1 ≠ name :=
  of_decide_eq_true (List.mem_filter.mp inside).2

/-- `unload_all` takes the whole table. -/
lemma takeAll_perm (unique : Tables.Unique Prod.fst m.plugins) {order : List Text}
    (all : order.Perm (m.plugins.map Prod.fst)) :
    (m.takeAll order).1.Perm (m.plugins.map Prod.snd) := by
  have each : (m.plugins.map Prod.fst).filterMap m.find = m.plugins.map Prod.snd := by
    rw [List.filterMap_map, ← List.filterMap_eq_map]
    exact List.filterMap_congr fun row inside => find_of_mem unique inside
  rw [← each]
  exact all.filterMap m.find

end

/-! ## Runs -/

/-- A call that waits for a hook. -/
inductive Call (ρ : Type) where
  /-- `register_plugin` waits for `on_load`. -/
  | registering (name : Text) (plugin : ρ)
  /-- `unregister_plugin` waits for `on_unload`. -/
  | unregistering (target : ρ)
  /-- `unload_all` waits for one `on_unload`, with these to come. -/
  | unloading (rest : List ρ)

/-- The plugin whose `on_load` has not ended. -/
def Call.loading : Call ρ → List ρ
  | .registering _ plugin => [plugin]
  | .unregistering _ | .unloading _ => []

/-- The plugins that are to be unloaded yet. -/
def Call.pending : Call ρ → List ρ
  | .unloading rest => rest
  | .registering _ _ | .unregistering _ => []

/-- What the user does: call the manager, or end the hook that a call waits for. -/
inductive Action (π : Type) where
  | registerPlugin (plugin : Option π) (name : Text)
  | unregisterPlugin (name : Text)
  | unloadAll (order : List Text)
  | hookEnds (call : Nat) (throws : Bool)

/-- A registration, by a number of its own. -/
structure Registration (π : Type) where
  number : Nat
  plugin : π
  deriving DecidableEq, Repr

/-- A manager with the calls that wait for a hook, and what has come of the registrations. -/
structure Lifecycle (π : Type) where
  manager : PluginManager (Registration π) := {}
  calls : List (Call (Registration π)) := []
  next : Nat := 0
  /-- `register_plugin` has returned `true`. -/
  granted : List (Registration π) := []
  /-- Removed by `unregister_plugin` or `unload_all`. -/
  removed : List (Registration π) := []
  /-- `on_unload` has been called. -/
  unloaded : List (Registration π) := []
  /-- `on_load` has thrown, and this was erased. -/
  failed : List (Registration π × Option (Registration π)) := []

namespace Lifecycle

variable {π : Type}

/-- The loop of `unload_all`, up to the next hook. -/
def unloadNext (s : Lifecycle π) : List (Registration π) → Lifecycle π
  | [] => s
  | p :: rest => { s with calls := .unloading rest :: s.calls, unloaded := p :: s.unloaded }

/-- The rest of a call, behind its hook. -/
def resume (s : Lifecycle π) (throws : Bool) : Call (Registration π) → Lifecycle π
  | .registering name plugin =>
    if throws then
      { s with
        manager := s.manager.erase name
        failed := (plugin, s.manager.find name) :: s.failed }
    else { s with granted := plugin :: s.granted }
  | .unregistering _ => s
  | .unloading rest => s.unloadNext rest

/-- One step: a call up to its first hook, or the rest of a call behind its hook. -/
def step (s : Lifecycle π) : Action π → Option (Lifecycle π)
  | .registerPlugin plugin name =>
    match s.manager.enter (plugin.map fun p => ⟨s.next, p⟩) name with
    | none => some s
    | some (plugin, manager) =>
      some { s with manager, next := s.next + 1, calls := .registering name plugin :: s.calls }
  | .unregisterPlugin name =>
    match s.manager.take name with
    | none => some s
    | some (target, manager) =>
      some { s with
        manager
        calls := .unregistering target :: s.calls
        removed := target :: s.removed
        unloaded := target :: s.unloaded }
  | .unloadAll order =>
    if order.Perm (s.manager.plugins.map Prod.fst) then
      let (all, manager) := s.manager.takeAll order
      some ({ s with manager, removed := all ++ s.removed }.unloadNext all)
    else none
  | .hookEnds i throws =>
    match s.calls[i]? with
    | none => none
    | some call => some ({ s with calls := s.calls.eraseIdx i }.resume throws call)

/-- The registrations in the table. -/
def registered (s : Lifecycle π) : List (Registration π) := s.manager.plugins.map Prod.snd

/-- The registrations whose `on_load` has not ended. -/
def loading (s : Lifecycle π) : List (Registration π) := s.calls.flatMap Call.loading

/-- The registrations that `unload_all` has removed and not come to. -/
def pending (s : Lifecycle π) : List (Registration π) := s.calls.flatMap Call.pending

end Lifecycle

end PluginManager

end CppGram
