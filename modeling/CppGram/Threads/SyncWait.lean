import CppGram.Threads.Coro
import Mathlib.Data.List.GetD
import Mathlib.Data.List.Perm.Subperm

/-!
# What `sync_wait` computes

A coroutine that is resumed runs to the end of its body, whatever the tasks it starts, awaits, moves and
drops, and leaves the frames of others as they were (`Sound.computes`): the proof is by induction on the
body, and a task that waits to be awaited carries what its own run does. `sync_wait` then gives what the
body means, with every frame the run allocated destroyed once.
-/

namespace CppGram.Threads.Coro

variable {σ V : Type}

/-! ## The heap -/

/-- One more element stands at the end. -/
lemma getD_push {α : Type} (l : List α) (a d : α) (i : Nat) :
    (l ++ [a]).getD i d = if i = l.length then a else l.getD i d := by
  split_ifs with hi
  · simp [List.getD_eq_getElem?_getD, hi]
  · rcases Nat.lt_or_gt_of_ne hi with hlt | hgt
    · exact List.getD_append _ _ _ _ hlt
    · rw [List.getD_eq_default _ _ (by simp; omega), List.getD_eq_default _ _ (Nat.le_of_lt hgt)]

/-- An element that is set stands in its place, and the others in theirs. -/
lemma getD_set {α : Type} (l : List α) (a d : α) (i j : Nat) :
    (l.set i a).getD j d = if j = i ∧ i < l.length then a else l.getD j d := by
  split_ifs with hi
  · simp [List.getD_eq_getElem?_getD, hi.1, hi.2]
  · by_cases hj : j = i
    · have hle : l.length ≤ i := Nat.le_of_not_lt fun hlt => hi ⟨hj, hlt⟩
      rw [List.set_eq_of_length_le hle]
    · simp [List.getD_eq_getElem?_getD, List.getElem?_set_ne (Ne.symm hj)]

/-- A handle is among the tasks exactly if a variable has it. -/
lemma mem_iff_getD {ts : List (Option Nat)} {x : Nat} :
    some x ∈ ts ↔ ∃ i, ts.getD i none = some x := by
  constructor
  · intro hx
    obtain ⟨i, hi, heq⟩ := List.mem_iff_getElem.1 hx
    exact ⟨i, by rw [List.getD_eq_getElem _ _ hi, heq]⟩
  · rintro ⟨i, hi⟩
    by_cases hlt : i < ts.length
    · rw [List.getD_eq_getElem _ _ hlt] at hi
      exact hi ▸ List.getElem_mem hlt
    · rw [List.getD_eq_default _ _ (Nat.le_of_not_lt hlt)] at hi
      cases hi

/-- The variable whose task `j` has after a move assignment to `i`. -/
def origin (i : Nat) (source : Option Nat) (j : Nat) : Option Nat :=
  if source = some j then none else if j = i then source else some j

/-- Behind a move assignment each variable has what its origin had. -/
lemma getD_moved {α : Type} {l : List α} {d : α} {i : Nat} {source : Option Nat} (hi : i < l.length)
    (hsource : source ≠ some i) (j : Nat) :
    (moved d l i source).getD j d = (origin i source j).elim d (l.getD · d) := by
  cases source with
  | none =>
    simp only [moved, getD_set, hi, and_true, origin, reduceCtorEq, if_false]
    split_ifs <;> rfl
  | some s =>
    have hne : ¬ s = i := fun heq => hsource (by rw [heq])
    simp only [moved, getD_set, List.length_set, hi, and_true, origin, Option.some.injEq]
    by_cases hj : s = j
    · subst hj
      by_cases hs : s < l.length
      · simp [hs]
      · simp [hs, hne]
    · simp only [hj, Ne.symm hj, false_and, if_false]
      split_ifs <;> rfl

/-- What a variable had that is assigned to is nobody's any more. -/
lemma origin_ne {i j : Nat} {source : Option Nat} (hsource : source ≠ some i) :
    origin i source j ≠ some i := by
  unfold origin
  split_ifs with h₁ h₂
  · simp
  · exact hsource
  · simp [h₂]

/-- No task comes to two variables. -/
lemma origin_inj {i j j' a : Nat} {source : Option Nat} (hj : origin i source j = some a)
    (hj' : origin i source j' = some a) : j = j' := by
  unfold origin at hj hj'
  split_ifs at hj hj' with h₁ h₂ h₃ h₄ h₅ h₆ <;> grind

/-- Every task but the one of `i` is still there. -/
lemma exists_origin {i a : Nat} {source : Option Nat} (hsource : source ≠ some i) (ha : a ≠ i) :
    ∃ j, origin i source j = some a := by
  by_cases heq : source = some a
  · exact ⟨i, by rw [origin, if_neg hsource, if_pos rfl, heq]⟩
  · exact ⟨a, by rw [origin, if_neg heq, if_neg ha]⟩

/-- A move assignment keeps the number of variables. -/
lemma length_moved {α : Type} (d : α) (l : List α) (i : Nat) (source : Option Nat) :
    (moved d l i source).length = l.length := by
  cases source <;> simp [moved]

/-- Behind the heap there are no frames. -/
lemma frameAt_of_le {heap : Heap σ V} {x : Nat} (hle : heap.length ≤ x) : frameAt heap x = none :=
  List.getD_eq_default _ _ hle

/-- A frame is on the heap. -/
lemma frameAt_lt {heap : Heap σ V} {h : Nat} {frame : Frame σ V} (hf : frameAt heap h = some frame) :
    h < heap.length := by
  by_contra hle
  rw [frameAt_of_le (Nat.le_of_not_lt hle)] at hf
  cases hf

/-- A frame that is set is there. -/
lemma frameAt_set_self {heap : Heap σ V} {h : Nat} {frame : Frame σ V} {o : Option (Frame σ V)}
    (hf : frameAt heap h = some frame) : frameAt (heap.set h o) h = o := by
  have hlt := frameAt_lt hf
  simp [frameAt, List.getD_eq_getElem?_getD, hlt]

/-- The other frames stay. -/
lemma frameAt_set_ne {heap : Heap σ V} {h x : Nat} {o : Option (Frame σ V)} (hne : x ≠ h) :
    frameAt (heap.set h o) x = frameAt heap x := by
  simp [frameAt, List.getD_eq_getElem?_getD, List.getElem?_set_ne hne.symm]

/-- A new frame is there. -/
lemma frameAt_push_self {heap : Heap σ V} {o : Option (Frame σ V)} :
    frameAt (heap ++ [o]) heap.length = o := by
  simp [frameAt]

/-- The old frames stay. -/
lemma frameAt_push_ne {heap : Heap σ V} {x : Nat} {o : Option (Frame σ V)} (hne : x ≠ heap.length) :
    frameAt (heap ++ [o]) x = frameAt heap x := by
  simp only [frameAt, getD_push, if_neg hne]

/-- Frames that own nothing are destroyed one by one, and the others stay. -/
lemma destroyAll_spec {hs : List Nat} : ∀ {fuel : Nat} {heap : Heap σ V}, hs.length ≤ fuel →
    hs.Nodup → (∀ h ∈ hs, ∃ frame, frameAt heap h = some frame ∧ frame.tasks = []) →
    ∃ heap', destroyAll fuel heap hs = some heap' ∧ (∀ h ∈ hs, frameAt heap' h = none) ∧
      ∀ x, x ∉ hs → frameAt heap' x = frameAt heap x := by
  induction hs with
  | nil =>
    intro fuel heap _ _ _
    exact ⟨heap, by cases fuel <;> rfl, by simp, fun _ _ => rfl⟩
  | cons h hs ih =>
    intro fuel heap hfuel hnd howns
    obtain ⟨hnot, hnd⟩ := List.nodup_cons.1 hnd
    obtain ⟨frame, hf, htasks⟩ := howns h (by simp)
    cases fuel with
    | zero => simp at hfuel
    | succ fuel =>
      have hrest : ∀ x ∈ hs, ∃ frame, frameAt (heap.set h none) x = some frame ∧ frame.tasks = [] := by
        intro x hx
        have hne : x ≠ h := by
          rintro rfl
          exact hnot hx
        rw [frameAt_set_ne hne]
        exact howns x (by simp [hx])
      obtain ⟨heap', hd, hgone, hkept⟩ := ih (Nat.le_of_succ_le_succ hfuel) hnd hrest
      refine ⟨heap', by simp [destroyAll, hf, htasks, List.reduceOption, hd], ?_, ?_⟩
      · intro x hx
        rcases List.mem_cons.1 hx with rfl | hx
        · rw [hkept x hnot, frameAt_set_self hf]
        · exact hgone x hx
      · intro x hx
        simp only [List.mem_cons, not_or] at hx
        rw [hkept x hx.2, frameAt_set_ne hx.1]

/-- Frames without tasks are destroyed, and no others. -/
lemma destroy_spec {hs : List Nat} {heap : Heap σ V} (hnd : hs.Nodup)
    (howns : ∀ h ∈ hs, ∃ frame, frameAt heap h = some frame ∧ frame.tasks = []) :
    ∃ heap', destroy heap hs = some heap' ∧ (∀ h ∈ hs, frameAt heap' h = none) ∧
      ∀ x, x ∉ hs → frameAt heap' x = frameAt heap x := by
  have hsub : hs ⊆ List.range heap.length := by
    intro h hh
    obtain ⟨frame, hf, _⟩ := howns h hh
    exact List.mem_range.2 (frameAt_lt hf)
  have hlen : hs.length ≤ heap.length := by
    have := (List.subperm_of_subset hnd hsub).length_le
    simpa using this
  exact destroyAll_spec hlen hnd howns

/-- To await a task resumes its frame. -/
lemma awaitSuspend_eq {m : Machine σ V} {awaiting : Handle} {c : Nat} {child : Frame σ V}
    (hf : frameAt m.heap c = some child) :
    m.awaitSuspend awaiting c =
      { m with
        heap := m.heap.set c (some { child with continuation := some awaiting })
        control := .resumed (.task c) } := by
  simp only [Machine.awaitSuspend, hf]

/-! ## What a run of a body leaves -/

/-- A frame at its final suspension. -/
def Frame.ended (c : Option Handle) : Outcome V → Frame σ V
  | .ok v => { code := .finished, continuation := c, value := some v }
  | .error e => { code := .finished, continuation := c, exception := some e }

/-- A frame that has ended has its result. -/
lemma Frame.ended_result (c : Option Handle) (r : Outcome V) :
    (Frame.ended c r : Frame σ V).result = some r := by
  cases r <;> rfl

/-- A frame that has ended is done. -/
lemma Frame.ended_done (c : Option Handle) (r : Outcome V) :
    (Frame.ended c r : Frame σ V).done = true := by
  cases r <;> rfl

/-- A frame that has ended has no tasks left. -/
lemma Frame.ended_tasks (c : Option Handle) (r : Outcome V) :
    (Frame.ended c r : Frame σ V).tasks = [] := by
  cases r <;> rfl

/-- From `m` on, the frame `h` runs to its final suspension: its tasks are gone, its result is `r` and
    the frames of others are as they were. -/
def Finishes (m : Machine σ V) (h : Nat) (tasks : List (Option Nat)) (c : Option Handle)
    (r : Outcome V × σ) : Prop :=
  ∃ n heap, Machine.step^[n] m = { m with heap, state := r.2, control := finalSuspend c } ∧
    frameAt heap h = some (.ended c r.1) ∧
    (∀ x, some x ∈ tasks → frameAt heap x = none) ∧
    ∀ x, x ≠ h → some x ∉ tasks → frameAt heap x = frameAt m.heap x

/-- A frame of `b` that nobody has awaited computes `run` when somebody does. -/
def Computes (b : Body σ V) (run : σ → Outcome V × σ) : Prop :=
  ∀ (m : Machine σ V) (h : Nat) (c : Option Handle), m.control = .resumed (.task h) →
    frameAt m.heap h = some { code := .body b, continuation := c } →
    Finishes m h [] c (run m.state)

/-- The handle of a task variable leads to a frame that is in the state the variable is in. -/
def Holds (heap : Heap σ V) : Local σ V → Option Nat → Prop
  | .empty, o => o = none
  | .lazy run, o =>
    ∃ h b, o = some h ∧ frameAt heap h = some { code := .body b } ∧ Computes b run
  | .done r, o => ∃ h c, o = some h ∧ frameAt heap h = some (.ended c r)

/-- The frame `h` is running, and `ls` are the tasks it owns. -/
structure Running (m : Machine σ V) (h : Nat) (frame : Frame σ V) (ls : List (Local σ V)) : Prop where
  control : m.control = .resumed (.task h)
  present : frameAt m.heap h = some frame
  value : frame.value = none
  exception : frame.exception = none
  apart : some h ∉ frame.tasks
  length : ls.length = frame.tasks.length
  holds : ∀ i, Holds m.heap (ls.getD i .empty) (frame.tasks.getD i none)
  distinct : ∀ i j x, frame.tasks.getD i none = some x → frame.tasks.getD j none = some x → i = j

/-- A variable is in the state of its frame as long as the frame stays. -/
lemma Holds.congr {heap heap' : Heap σ V} {l : Local σ V} {o : Option Nat} (hl : Holds heap l o)
    (hsame : ∀ x, o = some x → frameAt heap' x = frameAt heap x) : Holds heap' l o := by
  cases l with
  | empty => exact hl
  | lazy run =>
    obtain ⟨h, b, rfl, hf, hb⟩ := hl
    exact ⟨h, b, rfl, by rw [hsame h rfl, hf], hb⟩
  | done r =>
    obtain ⟨h, c, rfl, hf⟩ := hl
    exact ⟨h, c, rfl, by rw [hsame h rfl, hf]⟩

/-- Whether a task is ready is seen by its variable. -/
lemma Holds.isReady {heap : Heap σ V} {l : Local σ V} {o : Option Nat} (hl : Holds heap l o) :
    isReady heap o = some l.isReady := by
  cases l with
  | empty => rw [show o = none from hl]; rfl
  | lazy run =>
    obtain ⟨h, b, rfl, hf, _⟩ := hl
    simp [Coro.isReady, hf, Frame.done, Local.isReady]
  | done r =>
    obtain ⟨h, c, rfl, hf⟩ := hl
    simp [Coro.isReady, hf, Frame.ended_done, Local.isReady]

/-- The result of a task is that of its variable. -/
lemma Holds.awaitResume {heap : Heap σ V} {r : Outcome V} {o : Option Nat}
    (hl : Holds heap (.done r) o) : awaitResume heap o = some r := by
  obtain ⟨h, c, rfl, hf⟩ := hl
  exact (congrArg (·.bind Frame.result) hf).trans (Frame.ended_result c r)

/-- No task that a running frame owns owns tasks itself. -/
lemma Holds.tasks {heap : Heap σ V} {l : Local σ V} {x : Nat} (hl : Holds heap l (some x)) :
    ∃ frame, frameAt heap x = some frame ∧ frame.tasks = [] := by
  cases l with
  | empty => cases hl
  | lazy run =>
    obtain ⟨h, b, heq, hf, _⟩ := hl
    obtain rfl := Option.some.inj heq
    exact ⟨_, hf, rfl⟩
  | done r =>
    obtain ⟨h, c, heq, hf⟩ := hl
    obtain rfl := Option.some.inj heq
    exact ⟨_, hf, Frame.ended_tasks c r⟩

/-- Steps that touch only the frame's own tasks come before the rest of its run. -/
lemma Finishes.steps {m : Machine σ V} {h n : Nat} {tasks tasks' : List (Option Nat)}
    {c : Option Handle} {r : Outcome V × σ} {heap : Heap σ V} {s : σ} {control : Control}
    (hn : Machine.step^[n] m = { m with heap, state := s, control })
    (hrest : Finishes { m with heap, state := s, control } h tasks' c r)
    (hapart : some h ∉ tasks)
    (howned : ∀ x, some x ∈ tasks → some x ∈ tasks' ∨ frameAt heap x = none)
    (hothers : ∀ x, x ≠ h → some x ∉ tasks → (some x ∈ tasks' → frameAt m.heap x = none) ∧
      (some x ∉ tasks' → frameAt heap x = frameAt m.heap x)) :
    Finishes m h tasks c r := by
  obtain ⟨n', heap', hn', hended, hgone, hkept⟩ := hrest
  refine ⟨n' + n, heap', by rw [Function.iterate_add_apply, hn, hn'], hended, ?_, ?_⟩
  · intro x hx
    by_cases hx' : some x ∈ tasks'
    · exact hgone x hx'
    · have hne : x ≠ h := by
        rintro rfl
        exact hapart hx
      rw [hkept x hne hx']
      exact (howned x hx).resolve_left hx'
  · intro x hne hx
    by_cases hx' : some x ∈ tasks'
    · rw [hgone x hx', (hothers x hne hx).1 hx']
    · exact (hkept x hne hx').trans ((hothers x hne hx).2 hx')

namespace Running

variable {m : Machine σ V} {h : Nat} {frame : Frame σ V} {ls : List (Local σ V)}

/-- A running frame goes on with its body. -/
lemma step_eq (hr : Running m h frame ls) {b : Body σ V} (hb : frame.code = .body b) :
    m.step = m.resumeBody h frame b := by
  simp [Machine.step, hr.control, hr.present, hb]

/-- A frame does not own itself. -/
lemma ne_of_mem (hr : Running m h frame ls) {x : Nat} (hx : some x ∈ frame.tasks) : x ≠ h := by
  rintro rfl
  exact hr.apart hx

/-- A frame owns tasks that own none themselves. -/
lemma owns (hr : Running m h frame ls) {x : Nat} (hx : some x ∈ frame.tasks) :
    ∃ frame, frameAt m.heap x = some frame ∧ frame.tasks = [] := by
  obtain ⟨i, hi⟩ := mem_iff_getD.1 hx
  have hl := hr.holds i
  rw [hi] at hl
  exact hl.tasks

/-- No task is owned twice. -/
lemma nodup (hr : Running m h frame ls) : frame.tasks.reduceOption.Nodup := by
  refine List.pairwise_filterMap.2 (List.pairwise_iff_getElem.2 ?_)
  intro i j hi hj hlt x hx y hy heq
  subst heq
  have : i = j := by
    apply hr.distinct i j x
    · rw [List.getD_eq_getElem _ _ hi]
      exact hx
    · rw [List.getD_eq_getElem _ _ hj]
      exact hy
  omega

/-- The frame goes on with the same tasks. -/
lemma keep (hr : Running m h frame ls) {m' : Machine σ V} {b : Body σ V}
    (hcontrol : m'.control = .resumed (.task h))
    (hpresent : frameAt m'.heap h = some { frame with code := .body b })
    (hsame : ∀ x, some x ∈ frame.tasks → frameAt m'.heap x = frameAt m.heap x) :
    Running m' h { frame with code := .body b } ls where
  control := hcontrol
  present := hpresent
  value := hr.value
  exception := hr.exception
  apart := hr.apart
  length := hr.length
  holds i := (hr.holds i).congr fun x hx => hsame x (mem_iff_getD.2 ⟨i, hx⟩)
  distinct := hr.distinct

/-- The end of a body. -/
lemma ends (hr : Running m h frame ls) {r : Outcome V} (hstep : m.step = m.finish h frame r) :
    Finishes m h frame.tasks frame.continuation (r, m.state) := by
  have howns : ∀ x ∈ frame.tasks.reduceOption,
      ∃ frame, frameAt m.heap x = some frame ∧ frame.tasks = [] :=
    fun x hx => hr.owns (List.reduceOption_mem_iff.1 hx)
  obtain ⟨heap, hd, hgone, hkept⟩ := destroy_spec hr.nodup howns
  have hh : h ∉ frame.tasks.reduceOption := fun hx => hr.apart (List.reduceOption_mem_iff.1 hx)
  have hended : { frame.settle r with code := .finished, tasks := [] } =
      Frame.ended (σ := σ) frame.continuation r := by
    cases r <;> simp [Frame.settle, Frame.ended, hr.value, hr.exception]
  have hrun : Machine.step^[1] m =
      { m with
        heap := heap.set h (some (.ended frame.continuation r))
        control := finalSuspend frame.continuation } := by
    simp only [Function.iterate_one, hstep, Machine.finish, hd, hended]
  refine ⟨1, heap.set h (some (.ended frame.continuation r)), hrun, ?_, ?_, ?_⟩
  · exact frameAt_set_self ((hkept h hh).trans hr.present)
  · intro x hx
    rw [frameAt_set_ne (hr.ne_of_mem hx)]
    exact hgone x (List.reduceOption_mem_iff.2 hx)
  · intro x hne hx
    rw [frameAt_set_ne hne]
    exact hkept x fun hx' => hx (List.reduceOption_mem_iff.1 hx')

end Running

/-- A running frame that has `b` before it computes what `b` means. -/
def Sound (b : Body σ V) : Prop :=
  ∀ (m : Machine σ V) (h : Nat) (frame : Frame σ V) (ls : List (Local σ V)), frame.code = .body b →
    Running m h frame ls → Finishes m h frame.tasks frame.continuation (denote b ls m.state)

/-- A body that is sound computes what it means, from its first resumption on. -/
lemma Sound.computes {b : Body σ V} (hb : Sound b) : Computes b (denote b []) := by
  intro m h c hcontrol hpresent
  have hr : Running m h { code := .body b, continuation := c } [] :=
    { control := hcontrol
      present := hpresent
      value := rfl
      exception := rfl
      apart := by simp
      length := rfl
      holds := fun i => by simp [Holds]
      distinct := fun i j x hx => by simp at hx }
  exact hb m h _ [] rfl hr

namespace Running

variable {m : Machine σ V} {h : Nat} {frame : Frame σ V} {ls : List (Local σ V)}

/-- A step that leaves the tasks alone. -/
lemma goesOn (hr : Running m h frame ls) {b : Body σ V} (hb : Sound b) {s : σ}
    (hstep : m.step = Machine.goOn { m with state := s } h frame b) :
    Finishes m h frame.tasks frame.continuation (denote b ls s) := by
  have hr' : Running (Machine.goOn { m with state := s } h frame b) h { frame with code := .body b } ls :=
    hr.keep hr.control (frameAt_set_self hr.present) fun x hx => frameAt_set_ne (hr.ne_of_mem hx)
  have hrest := hb _ h _ ls rfl hr'
  have hn : Machine.step^[1] m = _ := hstep
  refine Finishes.steps hn hrest hr.apart (fun x hx => .inl hx) ?_
  intro x hne hx
  exact ⟨fun hx' => absurd hx' hx, fun _ => frameAt_set_ne hne⟩

/-- A coroutine is called. -/
lemma starts (hr : Running m h frame ls) {child k : Body σ V} (hchild : Sound child) (hk : Sound k)
    (hb : frame.code = .body (.start child k)) :
    Finishes m h frame.tasks frame.continuation (denote (.start child k) ls m.state) := by
  have hlt : h < m.heap.length := frameAt_lt hr.present
  have hfresh : ∀ x, some x ∈ frame.tasks → x ≠ m.heap.length := by
    intro x hx
    obtain ⟨f, hf, _⟩ := hr.owns hx
    exact Nat.ne_of_lt (frameAt_lt hf)
  have hpushed : frameAt (m.heap ++ [some { code := .body child }]) h = some frame := by
    rw [frameAt_push_ne (Nat.ne_of_lt hlt), hr.present]
  have hr' : Running (m.resumeBody h frame (.start child k)) h
      { frame with code := .body k, tasks := frame.tasks ++ [some m.heap.length] }
      (ls ++ [.lazy (denote child [])]) := by
    refine ⟨hr.control, frameAt_set_self hpushed, hr.value, hr.exception, ?_, ?_, ?_, ?_⟩
    · simp only [List.mem_append, List.mem_singleton, Option.some.injEq, not_or]
      exact ⟨hr.apart, Nat.ne_of_lt hlt⟩
    · simp [hr.length]
    · intro i
      simp only [getD_push, hr.length]
      split_ifs with hi
      · refine ⟨_, child, rfl, ?_, hchild.computes⟩
        exact (frameAt_set_ne (Nat.ne_of_gt hlt)).trans frameAt_push_self
      · refine (hr.holds i).congr fun x hx => ?_
        have hmem := mem_iff_getD.2 ⟨i, hx⟩
        exact (frameAt_set_ne (hr.ne_of_mem hmem)).trans (frameAt_push_ne (hfresh x hmem))
    · intro i j x hi hj
      have hnew : ∀ i, frame.tasks.getD i none ≠ some m.heap.length :=
        fun i hi => hfresh _ (mem_iff_getD.2 ⟨i, hi⟩) rfl
      simp only [getD_push] at hi hj
      split_ifs at hi hj with hi' hj' hj'
      · rw [hi', hj']
      · exact absurd (hj.trans hi.symm) (hnew j)
      · exact absurd (hi.trans hj.symm) (hnew i)
      · exact hr.distinct i j x hi hj
  have hn : Machine.step^[1] m = m.resumeBody h frame (.start child k) := hr.step_eq hb
  have hrest := hk _ h _ _ rfl hr'
  refine Finishes.steps hn hrest hr.apart (fun x hx => .inl (by simp [hx])) ?_
  intro x hne hx
  simp only [List.mem_append, hx, List.mem_singleton, Option.some.injEq, false_or]
  refine ⟨fun heq => heq ▸ frameAt_of_le (Nat.le_refl _), fun hne' => ?_⟩
  exact (frameAt_set_ne hne).trans (frameAt_push_ne hne')

/-- A task that nobody has awaited is awaited: it runs to its end, and the frame goes on with its
    outcome. -/
lemma awaitsLazy (hr : Running m h frame ls) {i : Nat} {k : Outcome V → Body σ V}
    (hk : ∀ r, Sound (k r)) (hb : frame.code = .body (.await i k)) {run : σ → Outcome V × σ}
    (hl : ls.getD i .empty = .lazy run) :
    Finishes m h frame.tasks frame.continuation
      (denote (k (run m.state).1) (ls.set i (.done (run m.state).1)) (run m.state).2) := by
  have hlazy := hr.holds i
  rw [hl] at hlazy
  obtain ⟨c, b, hc, hf, hcomputes⟩ := hlazy
  have hmem : some c ∈ frame.tasks := mem_iff_getD.2 ⟨i, hc⟩
  have hne : c ≠ h := hr.ne_of_mem hmem
  have hi : i < ls.length := by
    by_contra hle
    rw [List.getD_eq_default _ _ (Nat.le_of_not_lt hle)] at hl
    cases hl
  -- the child is resumed, with the frame as its continuation
  let waiting : Frame σ V := { frame with code := .awaiting i k }
  let m₁ : Machine σ V :=
    { m with
      heap := (m.heap.set h (some waiting)).set c
        (some { code := .body b, continuation := some (.task h) })
      control := .resumed (.task c) }
  have hwaiting : frameAt (m.heap.set h (some waiting)) c = some { code := .body b } := by
    rw [frameAt_set_ne hne, hf]
  have hsuspend : m.step = m₁ := by
    have hready : isReady m.heap (some c) = some false := by simp [isReady, hf, Frame.done]
    simp only [hr.step_eq hb, Machine.resumeBody, hc, hready]
    exact awaitSuspend_eq (m := { m with heap := m.heap.set h (some waiting) }) hwaiting
  obtain ⟨n, heap, hn, hended, _, hkept⟩ :=
    hcomputes m₁ c (some (.task h)) rfl (frameAt_set_self hwaiting)
  have hkept' : ∀ x, x ≠ c → x ≠ h → frameAt heap x = frameAt m.heap x := by
    intro x hxc hxh
    rw [hkept x hxc (by simp), frameAt_set_ne hxc, frameAt_set_ne hxh]
  have hself : frameAt heap h = some waiting := by
    rw [hkept h hne.symm (by simp), frameAt_set_ne hne.symm, frameAt_set_self hr.present]
  -- and the frame is resumed with its result
  let r := run m.state
  let m₂ : Machine σ V :=
    { m with
      heap := heap.set h (some { frame with code := .body (k r.1) })
      state := r.2
      control := .resumed (.task h) }
  have hresume : Machine.step { m₁ with heap, state := r.2, control := .resumed (.task h) } = m₂ := by
    have hresult : awaitResume heap (waiting.tasks.getD i none) = some r.1 := by
      rw [show waiting.tasks.getD i none = some c from hc]
      exact (congrArg (·.bind Frame.result) hended).trans (Frame.ended_result _ _)
    simp only [Machine.step, hself, waiting, Machine.endAwait] at hresult ⊢
    rw [hresult]
    rfl
  have hsteps : Machine.step^[1 + n + 1] m = m₂ := by
    rw [Function.iterate_add_apply, Function.iterate_one, hsuspend, Function.iterate_add_apply, hn]
    exact hresume
  have hr' : Running m₂ h { frame with code := .body (k r.1) } (ls.set i (.done r.1)) := by
    refine ⟨rfl, frameAt_set_self hself, hr.value, hr.exception, hr.apart, ?_, ?_, hr.distinct⟩
    · rw [List.length_set, hr.length]
    · intro j
      rw [getD_set]
      split_ifs with hj
      · refine ⟨c, some (.task h), hj.1 ▸ hc, ?_⟩
        exact (frameAt_set_ne hne).trans hended
      · refine (hr.holds j).congr fun x hx => ?_
        have hxc : x ≠ c := by
          rintro rfl
          exact hj ⟨hr.distinct j i x hx hc, hi⟩
        have hxh := hr.ne_of_mem (mem_iff_getD.2 ⟨j, hx⟩)
        exact (frameAt_set_ne hxh).trans (hkept' x hxc hxh)
  have hrest := hk r.1 _ h _ _ rfl hr'
  refine Finishes.steps hsteps hrest hr.apart (fun x hx => .inl hx) ?_
  intro x hxh hx
  have hxc : x ≠ c := by
    rintro rfl
    exact hx hmem
  exact ⟨fun hx' => absurd hx' hx, fun _ => (frameAt_set_ne hxh).trans (hkept' x hxc hxh)⟩

/-- A task variable is given the task of another one, or none; the task it had is destroyed. -/
lemma assigns (hr : Running m h frame ls) {i : Nat} {source : Option Nat} {k : Body σ V}
    (hk : Sound k) (hb : frame.code = .body (.assign i source k)) :
    Finishes m h frame.tasks frame.continuation (denote (.assign i source k) ls m.state) := by
  have hn : m.step = m.assign h frame i source k := hr.step_eq hb
  by_cases hskip : source = some i ∨ frame.tasks.length ≤ i
  · rw [Machine.assign, if_pos hskip] at hn
    rw [denote, hr.length, if_pos hskip]
    exact hr.goesOn hk hn
  · have hi : i < ls.length := by
      rw [hr.length]
      exact Nat.lt_of_not_le fun hle => hskip (.inr hle)
    have howns : ∀ x ∈ (frame.tasks.getD i none).toList,
        ∃ frame, frameAt m.heap x = some frame ∧ frame.tasks = [] :=
      fun x hx => hr.owns (mem_iff_getD.2 ⟨i, Option.mem_toList.1 hx⟩)
    have hnd : (frame.tasks.getD i none).toList.Nodup := by
      cases frame.tasks.getD i none <;> simp
    obtain ⟨heap, hd, hgone, hkept⟩ := destroy_spec hnd howns
    rw [Machine.assign, if_neg hskip, hd] at hn
    rw [denote, hr.length, if_neg hskip]
    have hsource : source ≠ some i := fun heq => hskip (.inl heq)
    have hi' : i < frame.tasks.length := hr.length ▸ hi
    -- the variable `j` now has what its origin had
    let tasks := moved none frame.tasks i source
    have htask : ∀ {j x}, tasks.getD j none = some x →
        ∃ a, origin i source j = some a ∧ frame.tasks.getD a none = some x := by
      intro j x hx
      rw [getD_moved hi' hsource] at hx
      cases ho : origin i source j with
      | none => simp [ho] at hx
      | some a => exact ⟨a, rfl, by simpa [ho] using hx⟩
    have hmem : ∀ {x}, some x ∈ tasks → some x ∈ frame.tasks := by
      intro x hx
      obtain ⟨j, hj⟩ := mem_iff_getD.1 hx
      obtain ⟨a, _, ha⟩ := htask hj
      exact mem_iff_getD.2 ⟨a, ha⟩
    have hstays : ∀ {a x}, a ≠ i → frame.tasks.getD a none = some x →
        frameAt heap x = frameAt m.heap x := by
      intro a x ha hx
      refine hkept x fun hx' => ha ?_
      exact hr.distinct a i x hx (Option.mem_toList.1 hx')
    have hself : frameAt heap h = some frame := by
      rw [hkept h fun hh => hr.apart (mem_iff_getD.2 ⟨i, Option.mem_toList.1 hh⟩), hr.present]
    have hr' : Running (Machine.goOn { m with heap } h { frame with tasks } k) h
        { frame with code := .body k, tasks } (moved .empty ls i source) := by
      refine ⟨hr.control, frameAt_set_self hself, hr.value, hr.exception, ?_, ?_, ?_, ?_⟩
      · exact fun hh => hr.apart (hmem hh)
      · simp only [length_moved, hr.length, tasks]
      · intro j
        rw [getD_moved hi hsource, getD_moved hi' hsource]
        cases ho : origin i source j with
        | none => rfl
        | some a =>
          have ha : a ≠ i := by
            rintro rfl
            exact origin_ne hsource ho
          refine (hr.holds a).congr fun x hx => ?_
          have hxh := hr.ne_of_mem (mem_iff_getD.2 ⟨a, hx⟩)
          exact (frameAt_set_ne hxh).trans (hstays ha hx)
      · intro j j' x hj hj'
        obtain ⟨a, ha, hx⟩ := htask hj
        obtain ⟨a', ha', hx'⟩ := htask hj'
        obtain rfl := hr.distinct a a' x hx hx'
        exact origin_inj ha ha'
    have hsteps : Machine.step^[1] m = _ := hn
    have hrest := hk _ h _ _ rfl hr'
    refine Finishes.steps hsteps hrest hr.apart ?_ ?_
    · intro x hx
      obtain ⟨a, ha⟩ := mem_iff_getD.1 hx
      by_cases hai : a = i
      · right
        rw [frameAt_set_ne (hr.ne_of_mem hx)]
        exact hgone x (Option.mem_toList.2 (hai ▸ ha))
      · left
        obtain ⟨j, hj⟩ := exists_origin hsource hai
        exact mem_iff_getD.2 ⟨j, by rw [getD_moved hi' hsource, hj]; exact ha⟩
    · intro x hxh hx
      refine ⟨fun hx' => absurd (hmem hx') hx, fun _ => ?_⟩
      rw [frameAt_set_ne hxh]
      exact hkept x fun hx' => hx (mem_iff_getD.2 ⟨i, Option.mem_toList.1 hx'⟩)

end Running

/-- A running frame computes what the rest of its body means. -/
theorem sound (b : Body σ V) : Sound b := by
  induction b with
  | coReturn v => exact fun m h frame ls hb hr => hr.ends (hr.step_eq hb)
  | throw e => exact fun m h frame ls hb hr => hr.ends (hr.step_eq hb)
  | call f k ih => exact fun m h frame ls hb hr => hr.goesOn (ih _) (hr.step_eq hb)
  | start child k ihc ihk => exact fun m h frame ls hb hr => hr.starts ihc ihk hb
  | await i k ih =>
    intro m h frame ls hb hr
    have hl := hr.holds i
    have hstep := hr.step_eq hb
    rw [denote]
    cases hi : ls.getD i .empty with
    | empty =>
      rw [hi] at hl
      have hempty : frame.tasks.getD i none = none := hl
      refine hr.goesOn (ih _) ?_
      simp only [hstep, Machine.resumeBody, Machine.endAwait, hempty]
      rfl
    | lazy run => exact hr.awaitsLazy ih hb hi
    | done r =>
      rw [hi] at hl
      have hresult := hl.awaitResume
      refine hr.goesOn (ih _) ?_
      simp only [hstep, Machine.resumeBody, hl.isReady, Machine.endAwait, hresult, Local.isReady]
  | assign i source k ih => exact fun m h frame ls hb hr => hr.assigns ih hb
  | isReady i k ih =>
    intro m h frame ls hb hr
    refine hr.goesOn (ih _) ?_
    simp only [hr.step_eq hb, Machine.resumeBody, (hr.holds i).isReady]

/-! ## The call of `sync_wait` -/

/-- Once `resume` has returned nothing runs any more. -/
lemma step_returned {m : Machine σ V} (hm : m.control = .returned) (n : Nat) :
    Machine.step^[n] m = m := by
  induction n with
  | zero => rfl
  | succ n ih => rw [Function.iterate_succ_apply, show m.step = m by simp [Machine.step, hm], ih]

/-- What is undefined stays undefined. -/
lemma step_undefined {m : Machine σ V} (hm : m.control = .undefined) (n : Nat) :
    Machine.step^[n] m = m := by
  induction n with
  | zero => rfl
  | succ n ih => rw [Function.iterate_succ_apply, show m.step = m by simp [Machine.step, hm], ih]

/-- The frame of a task that was just made. -/
abbrev fresh (b : Body σ V) : Option (Frame σ V) := some { code := .body b }

/-- The run inside `sync_wait` ends with the outcome of the task in its `optional`. -/
lemma begin_returns (b : Body σ V) (heap : Heap σ V) (s : σ) :
    ∃ n heap' c, Machine.step^[n] (Machine.begin (heap ++ [fresh b]) (some heap.length) s) =
        { heap := heap', state := (denote b [] s).2, control := .returned, task := some heap.length,
          runner := .finished, result := some (denote b [] s).1, done := true } ∧
      frameAt heap' heap.length = some (.ended c (denote b [] s).1) ∧
      ∀ x, x ≠ heap.length → frameAt heap' x = frameAt heap x := by
  have hfresh : frameAt (heap ++ [fresh b]) heap.length = fresh b := frameAt_push_self
  let m₁ : Machine σ V :=
    { heap := (heap ++ [fresh b]).set heap.length
        (some { code := .body b, continuation := some .runner })
      state := s, control := .resumed (.task heap.length), task := some heap.length
      runner := .awaiting }
  have hbegin : (Machine.begin (heap ++ [fresh b]) (some heap.length) s).step = m₁ := by
    have hready : isReady (heap ++ [fresh b]) (some heap.length) = some false := by
      simp [isReady, hfresh, Frame.done]
    simp only [Machine.begin, Machine.step, Machine.resumeRunner, hready, Machine.awaitSuspend, hfresh]
    rfl
  obtain ⟨n, heap', hn, hended, _, hkept⟩ :=
    (sound b).computes m₁ heap.length (some .runner) rfl (frameAt_set_self hfresh)
  refine ⟨1 + n + 1, heap', some .runner, ?_, hended, ?_⟩
  · have hresult : awaitResume heap' (some heap.length) = some (denote b [] s).1 :=
      (congrArg (·.bind Frame.result) hended).trans (Frame.ended_result _ _)
    rw [Function.iterate_add_apply, Function.iterate_one, hbegin, Function.iterate_add_apply, hn]
    simp only [Function.iterate_one, Machine.step, finalSuspend, Machine.resumeRunner, m₁,
      Machine.endRunner, hresult]
  · intro x hx
    rw [hkept x hx (by simp)]
    exact (frameAt_set_ne hx).trans (frameAt_push_ne hx)

/-- `sync_wait` of a body gives what the body means, and leaves the frames of others as they were. -/
lemma syncWait_eq (b : Body σ V) (heap : Heap σ V) (s : σ) :
    ∃ n heap', (∀ x, frameAt heap' x = frameAt heap x) ∧ ∀ fuel, n ≤ fuel →
      syncWait fuel (heap ++ [fresh b]) (some heap.length) s =
        some ((denote b [] s).1, (denote b [] s).2, heap') := by
  obtain ⟨n, heap', c, hn, hended, hkept⟩ := begin_returns b heap s
  have howns : ∀ x ∈ [heap.length],
      ∃ frame, frameAt heap' x = some frame ∧ frame.tasks = [] := by
    intro x hx
    obtain rfl := List.mem_singleton.1 hx
    exact ⟨_, hended, Frame.ended_tasks c _⟩
  obtain ⟨heap'', hd, hgone, hkept'⟩ := destroy_spec (by simp) howns
  refine ⟨n, heap'', fun x => ?_, fun fuel hfuel => ?_⟩
  · by_cases hx : x = heap.length
    · rw [hgone x (by simp [hx]), hx, frameAt_of_le (Nat.le_refl _)]
    · rw [hkept' x (by simpa using hx), hkept x hx]
  · obtain ⟨k, rfl⟩ := Nat.exists_eq_add_of_le' hfuel
    rw [syncWait, Function.iterate_add_apply, hn, step_returned rfl]
    simp only [Machine.leave, Option.toList_some, hd]
    rfl

/-- `sync_wait` of a coroutine gives what its body means, value or exception, and leaves the state its
    body leaves. No coroutine is resumed or destroyed that is not there, the wait for `done` ends, and
    when `sync_wait` returns the frames are those that were there before the task was made. -/
theorem syncWait_denote (b : Body σ V) (heap : Heap σ V) (s : σ) :
    (∀ n, (Machine.step^[n] (Machine.begin (heap ++ [fresh b]) (some heap.length) s)).control ≠
      .undefined) ∧
    ∃ n heap', (∀ x, frameAt heap' x = frameAt heap x) ∧ ∀ fuel, n ≤ fuel →
      syncWait fuel (heap ++ [fresh b]) (some heap.length) s =
        some ((denote b [] s).1, (denote b [] s).2, heap') := by
  refine ⟨fun k hk => ?_, syncWait_eq b heap s⟩
  obtain ⟨n, heap', c, hn, _⟩ := begin_returns b heap s
  have hstuck := step_undefined hk n
  rw [← Function.iterate_add_apply, Nat.add_comm, Function.iterate_add_apply, hn,
    step_returned rfl] at hstuck
  rw [← hstuck] at hk
  cases hk

/-! ## The asynchronous functions of the client -/

/-- `asyncX(args)` of the client, where `f` is `X(args)`. -/
def coReturnOf (f : σ → Outcome V × σ) : Body σ V :=
  .call f fun
    | .ok v => .coReturn v
    | .error e => .throw e

/-- A program that calls the client's functions and functions of its own, and catches what it wants
    of what they throw. -/
inductive Program (σ V : Type) where
  | ret (v : V)
  | throw (e : String)
  | call (f : σ → Outcome V × σ) (k : Outcome V → Program σ V)
  | sub (p : Program σ V) (k : Outcome V → Program σ V)

namespace Program

/-- The program with plain calls. -/
def run : Program σ V → σ → Outcome V × σ
  | .ret v, s => (.ok v, s)
  | .throw e, s => (.error e, s)
  | .call f k, s => (k (f s).1).run (f s).2
  | .sub p k, s => (k (p.run s).1).run (p.run s).2

/-- The program as a coroutine that awaits the asynchronous form of each function where it is called.
    The temporary `Task`, its `n`-th, goes at the end of the expression. -/
def async : Program σ V → Nat → Body σ V
  | .ret v, _ => .coReturn v
  | .throw e, _ => .throw e
  | .call f k, n => .start (coReturnOf f) (.await n fun r => .assign n none ((k r).async (n + 1)))
  | .sub p k, n => .start (p.async 0) (.await n fun r => .assign n none ((k r).async (n + 1)))

/-- A body that returns a call means the call. -/
lemma denote_coReturnOf (f : σ → Outcome V × σ) (ls : List (Local σ V)) (s : σ) :
    denote (coReturnOf f) ls s = f s := by
  rw [coReturnOf, denote]
  rcases h : f s with ⟨r, s'⟩
  cases r <;> rfl

/-- A task that is awaited where it is made is a call. -/
lemma denote_awaited (child : Body σ V) (k : Outcome V → Body σ V) (ls : List (Local σ V)) (s : σ) :
    denote (.start child (.await ls.length fun r => .assign ls.length none (k r))) ls s =
      denote (k (denote child [] s).1) (ls ++ [.empty]) (denote child [] s).2 := by
  have hget : (ls ++ [Local.lazy (denote child [])]).getD ls.length .empty =
      .lazy (denote child []) := by simp
  have hlt : ¬ (ls ++ [Local.lazy (denote child [])]).length ≤ ls.length := by simp
  simp only [denote, hget, reduceCtorEq, List.length_set, hlt, or_self, if_false, moved,
    List.set_set]
  rw [List.set_append_right _ _ (Nat.le_refl _), Nat.sub_self]
  rfl

/-- The coroutine form of a program means the program. -/
theorem denote_async (p : Program σ V) : ∀ (ls : List (Local σ V)) (s : σ),
    denote (p.async ls.length) ls s = p.run s := by
  induction p with
  | ret v => exact fun _ _ => rfl
  | throw e => exact fun _ _ => rfl
  | call f k ih =>
    intro ls s
    have hrest := ih (f s).1 (ls ++ [.empty]) (f s).2
    rw [List.length_append, List.length_singleton] at hrest
    rw [async, denote_awaited, denote_coReturnOf, hrest, run]
  | sub p k ihp ihk =>
    intro ls s
    have hp : denote (p.async 0) [] s = p.run s := ihp [] s
    have hrest := ihk (p.run s).1 (ls ++ [.empty]) (p.run s).2
    rw [List.length_append, List.length_singleton] at hrest
    rw [async, denote_awaited, hp, hrest, run]

end Program

/-- A program of awaits, run by `sync_wait`, does what the program of plain calls does. -/
theorem syncWait_async (p : Program σ V) (heap : Heap σ V) (s : σ) :
    ∃ n heap', (∀ x, frameAt heap' x = frameAt heap x) ∧ ∀ fuel, n ≤ fuel →
      syncWait fuel (heap ++ [fresh (p.async 0)]) (some heap.length) s =
        some ((p.run s).1, (p.run s).2, heap') := by
  have hmeaning : denote (p.async 0) [] s = p.run s := p.denote_async [] s
  rw [← hmeaning]
  exact syncWait_eq (p.async 0) heap s

end CppGram.Threads.Coro
