import CppGram.Client.Plugins
import CppGram.Lib.Ledger

/-!
# The lifecycle of plugins

A registration is in the table until it is removed, and whatever `unregister_plugin` or `unload_all`
removes is unloaded once. Only the exception of an `on_load` can break this: it erases whatever stands
under the name of its plugin, which may be a plugin that was registered in the meantime.
`lifecycle_exact_iff` says that nothing else goes wrong.
-/

namespace CppGram.PluginManager.Lifecycle
open Transition

variable {π : Type} {s s' : Lifecycle π}

/-- What is owed to the registrations. -/
structure Exact (s : Lifecycle π) : Prop where
  /-- An `on_load` that throws removes its own plugin, and no other. -/
  rollback : ∀ f ∈ s.failed, f.1 ∉ s.registered ∧ ∀ erased ∈ f.2, erased = f.1
  /-- Whatever was granted stays until it is removed. -/
  stays : ∀ r ∈ s.granted, r ∈ s.registered ∨ r ∈ s.removed
  /-- Each removal unloads what it has removed, and once. -/
  unloads : s.removed.Perm (s.unloaded ++ s.pending)
  once : s.removed.Nodup

/-- If an `on_load` throws, the entry under the name of its plugin is its own, or gone. -/
def OwnEntry (s : Lifecycle π) : Action π → Prop
  | .hookEnds i true =>
    ∀ name plugin, s.calls[i]? = some (.registering name plugin) →
      ∀ entry ∈ s.manager.find name, entry = plugin
  | _ => True

/-- Where the registrations are, and that a plugin that is being loaded stands under its name only. -/
structure Accounted (s : Lifecycle π) : Prop where
  names : Tables.Unique Prod.fst s.manager.plugins
  named : ∀ name r, Call.registering name r ∈ s.calls →
    ∀ row ∈ s.manager.plugins, row.2 = r → row.1 = name
  ledger : Ledger Registration.number s.registered s.removed s.granted s.loading
    (s.unloaded ++ s.pending) s.failed s.next

/-- At the start nothing is registered. -/
lemma accounted_start : Accounted ({} : Lifecycle π) where
  names := List.nodup_nil
  named := fun _ _ h => absurd h List.not_mem_nil
  ledger := .empty

lemma mem_loading {name : Text} {r : Registration π} (waits : Call.registering name r ∈ s.calls) :
    r ∈ s.loading :=
  List.mem_flatMap.mpr ⟨_, waits, List.mem_singleton_self r⟩

namespace Accounted

/-- What is accounted for is exact as long as nothing was erased by the exception of another plugin. -/
lemma exact_iff_ownOnly (h : Accounted s) : s.Exact ↔ Ledger.OwnOnly s.failed := by
  constructor
  · exact fun exact f failed => (exact.rollback f failed).2
  · intro own
    exact ⟨fun f failed => ⟨h.ledger.gone f failed, own f failed⟩,
      fun r granted => h.ledger.stays own r (List.mem_append_left _ granted), h.ledger.owes,
      h.ledger.apart.of_append_right⟩

/-! ## Starting calls -/

/-- A plugin is entered, and its `on_load` is called. -/
lemma enter (h : Accounted s) {plugin : Option (Registration π)} {name r manager}
    (entered : s.manager.enter plugin name = some (r, manager)) (number : r.number = s.next) :
    Accounted { s with
      manager, next := s.next + 1, calls := .registering name r :: s.calls } := by
  obtain ⟨-, plugins, unique⟩ := enter_some entered
  have unknown := h.ledger.unknown number
  simp only [List.mem_append, not_or] at unknown
  obtain ⟨⟨⟨unheld, -⟩, -, unstarted⟩, -⟩ := unknown
  refine ⟨unique h.names, ?_, ?_⟩
  · intro name' r' waits row inside same
    rw [plugins] at inside
    rcases List.mem_cons.mp waits with itself | waits
    · cases itself
      rcases List.mem_append.mp inside with before | now
      · exact absurd (same ▸ List.mem_map_of_mem before) unheld
      · rw [List.mem_singleton.mp now]
    · rcases List.mem_append.mp inside with before | now
      · exact h.named name' r' waits row before same
      · rw [List.mem_singleton.mp now] at same
        exact absurd (mem_loading (same ▸ waits)) unstarted
  · have registered : manager.plugins.map Prod.snd = s.registered ++ [r] := by
      rw [plugins, List.map_append]
      rfl
    have ledger := h.ledger.enter number
    rw [← registered] at ledger
    exact ledger

/-- A plugin is taken out, and its `on_unload` is called. -/
lemma take (h : Accounted s) {name target manager}
    (taken : s.manager.take name = some (target, manager)) :
    Accounted { s with
      manager
      calls := .unregistering target :: s.calls
      removed := target :: s.removed
      unloaded := target :: s.unloaded } := by
  obtain ⟨found, rfl⟩ := take_some taken
  have out := (erase_perm h.names found).map Prod.snd
  refine ⟨h.names.delete name, ?_, ?_⟩
  · intro name' r waits row inside same
    rcases List.mem_cons.mp waits with other | waits
    · cases other
    · exact h.named name' r waits row (erase_sublist.subset inside) same
  · exact h.ledger.remove (l := [target]) out (List.Perm.refl _)

/-- What is unloaded next, and what is to be unloaded yet. -/
lemma unloadNext (names : Tables.Unique Prod.fst s.manager.plugins)
    (named : ∀ name r, Call.registering name r ∈ s.calls →
      ∀ row ∈ s.manager.plugins, row.2 = r → row.1 = name) {l : List (Registration π)}
    (ledger : Ledger Registration.number s.registered s.removed s.granted s.loading
      (l ++ (s.unloaded ++ s.pending)) s.failed s.next) : Accounted (s.unloadNext l) := by
  cases l with
  | nil => exact ⟨names, named, ledger⟩
  | cons p rest =>
    refine ⟨names, ?_, ledger.perm (List.Perm.refl _) ?_⟩
    · intro name r waits row inside same
      rcases List.mem_cons.mp waits with other | waits
      · cases other
      · exact named name r waits row inside same
    · change (p :: (rest ++ (s.unloaded ++ s.pending))).Perm (p :: (s.unloaded ++ (rest ++ s.pending)))
      rw [← List.append_assoc, ← List.append_assoc]
      exact (List.perm_append_comm.append_right _).cons p

/-- All plugins are taken out, and the first one's `on_unload` is called. -/
lemma takeAll (h : Accounted s) {order : List Text}
    (all : order.Perm (s.manager.plugins.map Prod.fst)) :
    Accounted ({ s with
      manager := (s.manager.takeAll order).2
      removed := (s.manager.takeAll order).1 ++ s.removed }.unloadNext
        (s.manager.takeAll order).1) := by
  apply unloadNext
  · exact List.nodup_nil
  · exact fun _ _ _ _ inside => absurd inside List.not_mem_nil
  · have out : s.registered.Perm ((s.manager.takeAll order).1 ++ []) := by
      rw [List.append_nil]
      exact (takeAll_perm h.names all).symm
    exact h.ledger.remove out (List.Perm.refl _)

/-! ## Ends of hooks -/

section
variable {call : Call (Registration π)} {rest : List (Call (Registration π))}

lemma loading_perm (waits : s.calls.Perm (call :: rest)) :
    s.loading.Perm (call.loading ++ rest.flatMap Call.loading) :=
  waits.flatMap_right Call.loading

lemma pending_perm (waits : s.calls.Perm (call :: rest)) :
    s.pending.Perm (call.pending ++ rest.flatMap Call.pending) :=
  waits.flatMap_right Call.pending

/-- A hook ends, and the rest of its call is done. -/
lemma resume (h : Accounted s) (waits : s.calls.Perm (call :: rest)) (throws : Bool) :
    Accounted ({ s with calls := rest }.resume throws call) := by
  have named : ∀ name r, Call.registering name r ∈ rest →
      ∀ row ∈ s.manager.plugins, row.2 = r → row.1 = name := fun name r inside =>
    h.named name r (waits.mem_iff.mpr (List.mem_cons_of_mem _ inside))
  have loading := loading_perm waits
  have pending := (pending_perm waits).append_left s.unloaded
  cases call with
  | registering name r =>
    cases throws with
    | false => exact ⟨h.names, named, (h.ledger.grant loading).perm (List.Perm.refl _) pending⟩
    | true =>
      have lost : r ∉ (s.manager.erase name).plugins.map Prod.snd := by
        intro inside
        obtain ⟨row, there, same⟩ := List.mem_map.mp inside
        have under := h.named name r (waits.mem_iff.mpr List.mem_cons_self) row
          (erase_sublist.subset there) same
        exact name_of_mem_erase there under
      refine ⟨h.names.delete name, fun name' r' inside row there => ?_, ?_⟩
      · exact named name' r' inside row (erase_sublist.subset there)
      · exact (h.ledger.fail loading (erase_registered h.names) lost).perm (List.Perm.refl _) pending
  | unregistering target => exact ⟨h.names, named, h.ledger.perm loading pending⟩
  | unloading l =>
    refine unloadNext (s := { s with calls := rest }) h.names named
      (h.ledger.perm loading (pending.trans ?_))
    rw [← List.append_assoc, ← List.append_assoc]
    exact List.perm_append_comm.append_right _

end

/-- A step keeps the account. -/
lemma step (h : Accounted s) {a : Action π} (taken : s.step a = some s') : Accounted s' := by
  cases a with
  | registerPlugin plugin name =>
    rw [Lifecycle.step] at taken
    split at taken
    · cases taken
      exact h
    · next r manager entered =>
      cases taken
      refine h.enter entered ?_
      obtain ⟨p, -, rfl⟩ := Option.map_eq_some_iff.mp (enter_some entered).1
      rfl
  | unregisterPlugin name =>
    rw [Lifecycle.step] at taken
    split at taken
    · cases taken
      exact h
    · next target manager out =>
      cases taken
      exact h.take out
  | unloadAll order =>
    rw [Lifecycle.step] at taken
    split at taken
    · next all =>
      cases taken
      exact h.takeAll all
    · cases taken
  | hookEnds i throws =>
    rw [Lifecycle.step] at taken
    split at taken
    · cases taken
    · next call waits =>
      cases taken
      obtain ⟨inside, rfl⟩ := List.getElem?_eq_some_iff.mp waits
      exact h.resume (List.getElem_cons_eraseIdx_perm inside).symm throws

end Accounted

/-! ## Runs -/

lemma unloadNext_failed {l : List (Registration π)} : (s.unloadNext l).failed = s.failed := by
  cases l <;> rfl

/-- Only the exception of an `on_load` is recorded. -/
lemma resume_failed {i : Nat} {throws : Bool} {call : Call (Registration π)}
    {calls : List (Call (Registration π))} (waits : s.calls[i]? = some call) :
    Ledger.OwnOnly ({ s with calls }.resume throws call).failed ↔
      Ledger.OwnOnly s.failed ∧ OwnEntry s (.hookEnds i throws) := by
  cases throws with
  | false =>
    have same : ({ s with calls }.resume false call).failed = s.failed := by
      cases call with
      | registering name r | unregistering target => rfl
      | unloading rest => exact unloadNext_failed
    rw [same]
    exact (and_iff_left trivial).symm
  | true =>
    cases call with
    | registering name r =>
      rw [OwnEntry, waits]
      refine List.forall_mem_cons.trans (and_comm.trans (and_congr_right fun _ => ?_))
      constructor
      · intro own name' r' same
        cases same
        exact own
      · exact fun own => own name r rfl
    | unregistering target =>
      refine (and_iff_left ?_).symm
      intro name r same
      cases waits.symm.trans same
    | unloading rest =>
      rw [resume, unloadNext_failed]
      refine (and_iff_left ?_).symm
      intro name r same
      cases waits.symm.trans same

/-- Nothing is erased by the exception of another plugin exactly if the entries are their own. -/
lemma ownOnly_step_iff {a : Action π} (taken : s.step a = some s') :
    Ledger.OwnOnly s'.failed ↔ Ledger.OwnOnly s.failed ∧ OwnEntry s a := by
  cases a with
  | registerPlugin plugin name | unregisterPlugin name =>
    have same : s'.failed = s.failed := by
      rw [Lifecycle.step] at taken
      split at taken <;> cases taken <;> rfl
    rw [same]
    exact (and_iff_left trivial).symm
  | unloadAll order =>
    have same : s'.failed = s.failed := by
      rw [Lifecycle.step] at taken
      split at taken
      · cases taken
        exact unloadNext_failed
      · cases taken
    rw [same]
    exact (and_iff_left trivial).symm
  | hookEnds i throws =>
    rw [Lifecycle.step] at taken
    split at taken
    · cases taken
    · next call waits =>
      cases taken
      exact resume_failed waits

/-- In every run the lifecycle is exact exactly if each `on_load` that throws finds its own entry under
    its name, or none. -/
theorem lifecycle_exact_iff {actions : List (Action π)} (ran : run step {} actions = some s) :
    s.Exact ↔ Meets step OwnEntry {} actions := by
  have nothing : Ledger.OwnOnly ({} : Lifecycle π).failed := fun _ h => absurd h List.not_mem_nil
  have accounted := run_invariant (I := Accounted) (fun h taken => h.step taken) accounted_start ran
  have whole := run_iff (C := OwnEntry) (I := fun _ => True)
    (P := fun s : Lifecycle π => Ledger.OwnOnly s.failed) (fun _ _ => trivial)
    (fun _ taken => ownOnly_step_iff taken) trivial ran
  rw [accounted.exact_iff_ownOnly, whole]
  exact and_iff_right nothing

/-- A plugin that throws on loading, and another one under its name. -/
theorem lifecycle_exact_iff_retry : ∃ s : Lifecycle Nat,
    run step {} [.registerPlugin (some 1) [97], .hookEnds 0 true, .registerPlugin (some 2) [97],
      .hookEnds 0 false] = some s ∧ s.Exact := by
  obtain ⟨s, ran⟩ : ∃ s : Lifecycle Nat, run step {} [.registerPlugin (some 1) [97],
    .hookEnds 0 true, .registerPlugin (some 2) [97], .hookEnds 0 false] = some s := ⟨_, rfl⟩
  refine ⟨s, ran, (lifecycle_exact_iff ran).mpr ?_⟩
  refine (meets_cons rfl).mpr ⟨trivial, (meets_cons rfl).mpr ⟨?_, ?_⟩⟩
  · intro name plugin waits entry found
    cases waits
    cases found
    rfl
  · exact (meets_cons rfl).mpr ⟨trivial, (meets_cons rfl).mpr ⟨trivial, meets_nil _⟩⟩

/-- In `on_load` a plugin unregisters itself and registers another one under its name, then throws: the
    other one, whose registration was granted, is gone and is never unloaded. -/
theorem inexact_rollback : ∃ s : Lifecycle Nat,
    run step {} [.registerPlugin (some 1) [97], .unregisterPlugin [97], .hookEnds 0 false,
      .registerPlugin (some 2) [97], .hookEnds 0 false, .hookEnds 0 true] = some s ∧
    ¬ s.Exact ∧ ∃ r ∈ s.granted, r.plugin = 2 ∧ r ∉ s.registered ∧ r ∉ s.removed ∧
      r ∉ s.unloaded := by
  refine ⟨_, rfl, fun exact => ?_, ⟨1, 2⟩, by decide, rfl, by decide, by decide, by decide⟩
  cases (exact.rollback _ (List.mem_singleton_self _)).2 ⟨1, 2⟩ rfl

end CppGram.PluginManager.Lifecycle
