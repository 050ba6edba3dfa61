import CppGram.Backend.Dispatch

/-!
# What the middleware guards

An update that brings a message or a callback query to handlers is `Guarded` if no handler is called
once the pipeline aborts it. `dispatch_message` and `dispatch_callback_query` run the pipeline first;
`dispatch_edited_message` does not, so `guarded_iff` leaves for an edited message what its handlers
themselves let through.
-/

namespace CppGram.Backend

variable {μ κ : Type}

/-- What the pipeline gets to see of an update that brings a message or a callback query. -/
def Update.event : Update μ κ → Option (MiddlewareContext μ κ)
  | .newMessage (some msg) | .messageContent msg => some { message := some msg }
  | .newCallbackQuery q => some { callbackQuery := some q }
  | _ => none

/-- No handler is called for an update that the pipeline aborts. -/
def ClientImpl.Guarded (c : ClientImpl μ κ) (u : Update μ κ) : Prop :=
  ∀ ctx, u.event = some ctx → (MiddlewarePipeline.execute c.middleware ctx).1 = false →
    (c.processUpdate u).calls = []

section

variable {η : Type} {filter : η → Except Thrown Bool} {callback : η → Except Thrown Unit}

/-- Every handler that accepts an event stands behind one whose filter throws. -/
def Silent (filter : η → Except Thrown Bool) (handlers : List η) : Prop :=
  ∀ before h after, handlers = before ++ h :: after → Accepts filter h = true →
    ∃ b ∈ before, ∃ thrown, filter b = .error thrown

/-- A handler in front is silent if it does not accept, and what is behind it is silent or not reached.
    -/
lemma silent_cons {h : η} {handlers : List η} :
    Silent filter (h :: handlers) ↔
      Accepts filter h = false ∧ ((∃ thrown, filter h = .error thrown) ∨ Silent filter handlers) := by
  constructor
  · intro silent
    refine ⟨?_, ?_⟩
    · by_contra accepts
      obtain ⟨b, inside, -⟩ := silent [] h handlers rfl (Bool.eq_true_of_not_eq_false accepts)
      cases inside
    · rw [or_iff_not_imp_left]
      intro filters before a after split accepts
      obtain ⟨b, inside, throws⟩ := silent (h :: before) a after (congrArg (h :: ·) split) accepts
      rcases List.mem_cons.mp inside with rfl | inside
      · exact absurd throws filters
      · exact ⟨b, inside, throws⟩
  · rintro ⟨refuses, silent⟩ before a after split accepts
    cases before with
    | nil =>
      cases split
      cases refuses.symm.trans accepts
    | cons first before =>
      obtain ⟨rfl, later⟩ := List.cons.inj split
      rcases silent with throws | silent
      · exact ⟨h, List.mem_cons_self, throws⟩
      · obtain ⟨b, inside, throws⟩ := silent before a after later accepts
        exact ⟨b, List.mem_cons_of_mem _ inside, throws⟩

/-- The loop calls no handler at all. -/
lemma runHandlers_nil_iff (handlers : List η) :
    (runHandlers filter callback handlers).1 = [] ↔ Silent filter handlers := by
  induction handlers with
  | nil =>
    refine iff_of_true rfl fun before h after split => ?_
    cases before <;> cases split
  | cons h handlers ih =>
    rw [silent_cons]
    cases filtered : filter h with
    | error thrown =>
      simp only [runHandlers, Accepts, filtered, Except.error.injEq, exists_eq', true_or, and_self]
    | ok accepts =>
      cases accepts with
      | false => simpa only [runHandlers, Accepts, filtered, reduceCtorEq, exists_false, false_or,
          true_and] using ih
      | true =>
        simp only [runHandlers, Accepts, filtered, reduceCtorEq, false_and, iff_false]
        split <;> exact List.cons_ne_nil _ _

end

/-- An update is guarded exactly when it is no edited message that the pipeline aborts and a handler for
    edited messages accepts, before any filter throws. -/
theorem ClientImpl.guarded_iff (c : ClientImpl μ κ) (u : Update μ κ) :
    c.Guarded u ↔
      ∀ msg, u = .messageContent msg →
        MiddlewarePipeline.Halts c.middleware { message := some msg } →
          Silent (·.filter msg) c.onEditedMessageHandlers := by
  cases u with
  | newMessage message =>
    refine iff_of_true (fun ctx event aborted => ?_) nofun
    cases message with
    | none => cases event
    | some msg =>
      cases event
      simp only [processUpdate, dispatchMessage, c.attached, aborted, Bool.not_false, Bool.and_self,
        if_true, Processed.calls]
  | newCallbackQuery q =>
    refine iff_of_true (fun ctx event aborted => ?_) nofun
    cases event
    simp only [processUpdate, dispatchCallbackQuery, c.attached, aborted, Bool.not_false,
      Bool.and_self, if_true, Processed.calls]
  | messageContent msg =>
    simp only [Guarded, Update.event, Option.some.injEq, forall_eq', Update.messageContent.injEq,
      processUpdate, dispatchEditedMessage, Processed.calls, List.map_eq_nil_iff]
    rw [MiddlewarePipeline.execute_false_iff rfl, runHandlers_nil_iff]
  | _ => exact iff_of_true nofun nofun

/-- A rejected message that is edited reaches the handlers for edited messages. -/
theorem ClientImpl.edited_message_not_guarded :
    ¬ ClientImpl.Guarded (κ := Unit)
      { middleware := [fun ctx => (.ok false, ctx)]
        onEditedMessageHandlers := [{ callback := fun _ => .ok () }] }
      (.messageContent ()) := by
  intro guarded
  cases guarded _ rfl rfl

end CppGram.Backend
