import Understudy.Metrics.Counting
import Mathlib

/-!
# Metrics behind a list of events

What the counters show after some events, told by the events.  Every quantity that one event moves
by an amount moves by the sum of the amounts: the cell of a method and an outcome, the selected
cells together, the left-out mappings of a kind, the recordings, and the gauge of registered
mappings.
-/

namespace Understudy

/-! ## What one event moves -/

namespace Event

/-- The cells of the counter of requests that an event moves by one. -/
def cells : Event → List (String × String)
  | .request method outcome => [(method, outcome)]
  | _ => []

/-- The kinds of the counter of left-out mappings that an event moves by one. -/
def failureKinds : Event → List String
  | .matcherError kind => [kind]
  | _ => []

/-- The amount by which an event moves the counter of recordings. -/
def recordings : Event → Nat
  | .recorded => 1
  | _ => 0

/-- The amount by which an event moves the gauge of registered mappings. -/
def difference : Event → Int
  | .registered amount => amount
  | _ => 0

end Event

namespace Metrics

/-! ## Cells -/

section

variable {α β : Type} [BEq α] [LawfulBEq α]

/-- Only the cell of the label changes, and it starts from the given value. -/
theorem lookup_changeCell (label other : α) (start : β) (change : β → β) (cells : List (α × β)) :
    (changeCell label start change cells).lookup other =
      if other == label then some (change ((cells.lookup label).getD start))
      else cells.lookup other := by
  induction cells with
  | nil =>
      rw [changeCell, List.lookup_cons]
      cases other == label <;> rfl
  | cons cell rest inductionHypothesis =>
      obtain ⟨name, value⟩ := cell
      by_cases found : name = label
      · subst found
        simp only [changeCell, beq_self_eq_true, if_true, List.lookup_cons, Option.getD_some]
        cases other == name <;> rfl
      · have foundFalse : (name == label) = false := beq_false_of_ne found
        have notHere : (label == name) = false := beq_false_of_ne (Ne.symm found)
        rw [changeCell, foundFalse, if_neg Bool.false_ne_true, List.lookup_cons, List.lookup_cons,
          List.lookup_cons, inductionHypothesis, notHere]
        by_cases here : other = name
        · rw [here, beq_self_eq_true, foundFalse]
          rfl
        · rw [beq_false_of_ne here]

/-- Counting once more in one cell adds one to that cell and to no other. -/
theorem getD_lookup_changeCell (label other : α) (cells : List (α × Nat)) :
    ((changeCell label 0 (· + 1) cells).lookup other).getD 0 =
      (cells.lookup other).getD 0 + [label].count other := by
  rw [lookup_changeCell, List.count_singleton]
  by_cases same : other = label
  · rw [same, beq_self_eq_true, if_pos rfl, if_pos rfl, Option.getD_some]
  · rw [beq_false_of_ne same, beq_false_of_ne (Ne.symm same)]
    rfl

/-- Counting once more in one cell adds one to the sum of the selected cells, if it is one of
them. -/
theorem sum_filter_changeCell (label : α) (selects : α → Bool) (cells : List (α × Nat)) :
    (((changeCell label 0 (· + 1) cells).filter fun cell => selects cell.1).map Prod.snd).sum =
      ((cells.filter fun cell => selects cell.1).map Prod.snd).sum +
        [label].countP selects := by
  induction cells with
  | nil => cases selected : selects label <;> simp [changeCell, selected]
  | cons cell rest inductionHypothesis =>
      obtain ⟨name, value⟩ := cell
      by_cases found : name = label
      · subst found
        cases selected : selects name <;> simp [changeCell, selected]
        omega
      · have notHere : (name == label) = false := beq_false_of_ne found
        rw [changeCell, notHere, if_neg Bool.false_ne_true]
        cases selected : selects name with
        | false =>
            simp only [List.filter_cons, selected, Bool.false_eq_true, if_false]
            exact inductionHypothesis
        | true =>
            simp only [List.filter_cons, selected, if_true, List.map_cons, List.sum_cons]
            rw [inductionHypothesis, Nat.add_assoc]

end

/-- The number of requests in the selected cells. -/
def requestTotal (metrics : Metrics) (selects : String × String → Bool) : Nat :=
  ((metrics.requests.filter fun cell => selects cell.1).map Prod.snd).sum

/-! ## One event -/

variable (metrics : Metrics)

theorem requestCount_record (event : Event) (method outcome : String) :
    (metrics.record event).requestCount method outcome =
      metrics.requestCount method outcome + event.cells.count (method, outcome) := by
  cases event with
  | request counted counting => exact getD_lookup_changeCell (counted, counting) (method, outcome) _
  | matcherError kind => rfl
  | recorded => rfl
  | registered amount => rfl
  | resolution outcome microseconds => rfl
  | log line => rfl

theorem matcherErrorCount_record (event : Event) (kind : String) :
    (metrics.record event).matcherErrorCount kind =
      metrics.matcherErrorCount kind + event.failureKinds.count kind := by
  cases event with
  | matcherError counted => exact getD_lookup_changeCell counted kind _
  | request method outcome => rfl
  | recorded => rfl
  | registered amount => rfl
  | resolution outcome microseconds => rfl
  | log line => rfl

theorem requestTotal_record (event : Event) (selects : String × String → Bool) :
    (metrics.record event).requestTotal selects =
      metrics.requestTotal selects + event.cells.countP selects := by
  cases event with
  | request method outcome => exact sum_filter_changeCell (method, outcome) selects _
  | matcherError kind => rfl
  | recorded => rfl
  | registered amount => rfl
  | resolution outcome microseconds => rfl
  | log line => rfl

theorem recorded_record (event : Event) :
    (metrics.record event).recorded = metrics.recorded + event.recordings := by
  cases event <;> rfl

theorem registered_record (event : Event) :
    (metrics.record event).registered = metrics.registered + event.difference := by
  cases event with
  | registered amount => rfl
  | _ => exact (add_zero metrics.registered).symm

/-! ## All events -/

/-- A quantity that every event moves by an amount moves by the sum of the amounts. -/
theorem recordAll_eq_add_sum {α : Type} [AddMonoid α] (quantity : Metrics → α)
    (amount : Event → α)
    (moves : ∀ metrics event, quantity (record metrics event) = quantity metrics + amount event)
    (events : List Event) :
    quantity (metrics.recordAll events) = quantity metrics + (events.map amount).sum := by
  induction events generalizing metrics with
  | nil => exact (add_zero _).symm
  | cons event rest inductionHypothesis =>
      calc
        quantity (metrics.recordAll (event :: rest)) =
            quantity (metrics.record event) + (rest.map amount).sum :=
          inductionHypothesis (metrics.record event)
        _ = quantity metrics + ((event :: rest).map amount).sum := by
          rw [moves, add_assoc, List.map_cons, List.sum_cons]

variable (events : List Event)

/-- The cell of a method and an outcome counts the requests that are reported with them. -/
theorem requestCount_recordAll (method outcome : String) :
    (metrics.recordAll events).requestCount method outcome =
      metrics.requestCount method outcome +
        (events.flatMap Event.cells).count (method, outcome) := by
  rw [List.count_flatMap]
  exact metrics.recordAll_eq_add_sum (fun before => before.requestCount method outcome) _
    (fun before event => before.requestCount_record event method outcome) events

/-- The selected cells together count the reported requests that belong to one of them. -/
theorem requestTotal_recordAll (selects : String × String → Bool) :
    (metrics.recordAll events).requestTotal selects =
      metrics.requestTotal selects + (events.flatMap Event.cells).countP selects := by
  rw [List.countP_flatMap]
  exact metrics.recordAll_eq_add_sum (fun before => before.requestTotal selects) _
    (fun before event => before.requestTotal_record event selects) events

/-- The counter of a kind counts the left-out mappings that are reported with it. -/
theorem matcherErrorCount_recordAll (kind : String) :
    (metrics.recordAll events).matcherErrorCount kind =
      metrics.matcherErrorCount kind + (events.flatMap Event.failureKinds).count kind := by
  rw [List.count_flatMap]
  exact metrics.recordAll_eq_add_sum (fun before => before.matcherErrorCount kind) _
    (fun before event => before.matcherErrorCount_record event kind) events

theorem recorded_recordAll :
    (metrics.recordAll events).recorded =
      metrics.recorded + (events.map Event.recordings).sum :=
  metrics.recordAll_eq_add_sum Metrics.recorded Event.recordings recorded_record events

/-- The gauge moves by the sum of the reported differences. -/
theorem registered_recordAll :
    (metrics.recordAll events).registered =
      metrics.registered + (events.map Event.difference).sum :=
  metrics.recordAll_eq_add_sum Metrics.registered Event.difference registered_record events

end Metrics

end Understudy
