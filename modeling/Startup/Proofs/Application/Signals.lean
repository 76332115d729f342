import Startup.Proofs.Application.Moments
import Mathlib.Data.List.Induction

/-!
# Requests that stand

A request to stop stands until the program waits, unless the program withdraws it. In the foreground
nothing withdraws a request. In the background the start of the worker does, after signals are caught
already, so a signal that arrives between the two is lost and the program waits for another one.
-/

namespace Startup.Application

open Moment

def Moment.Requests (moment : Moment) : Event → Prop
  | .advance => False
  | .signal _ => moment.service.catchesSignals = true
  | .ends worker => moment.canEnd worker = true

/-- Whether a request at a point stands when the program comes to its wait. -/
def Point.keeps (background : Bool) : Point → Bool
  | installing => !background
  | creating | starting | reporting | announcing | waiting => true
  | _ => false

/-- Whether the program will still withdraw what is requested at a point. -/
def Point.withdraws (background : Bool) : Point → Bool
  | installing => background
  | setting | checking | withdrawing => true
  | _ => false

/-- Whether a request stands after some events. In the foreground, one that was there at first does
too. -/
def Stands (background : Bool) (service : Service) (events : List Event) : Prop :=
  background = false ∧ service.stopRequested = true ∨
    ∃ before event later, events = before ++ event :: later ∧
      (momentAfter background service before).Requests event ∧
      (momentAfter background service before).point.keeps background = true

section Run

variable {background : Bool} {service : Service}

theorem momentAfter_concat (events : List Event) (event : Event) :
    momentAfter background service (events ++ [event]) =
      (momentAfter background service events).next event := by
  rw [momentAfter, after_append]
  rfl

theorem stands_nil :
    Stands background service [] ↔ background = false ∧ service.stopRequested = true := by
  simp [Stands]

theorem stands_concat (events : List Event) (event : Event) :
    Stands background service (events ++ [event]) ↔
      Stands background service events ∨
        (momentAfter background service events).Requests event ∧
          (momentAfter background service events).point.keeps background = true := by
  unfold Stands
  rw [or_assoc]
  refine or_congr_right ?_
  constructor
  · rintro ⟨before, found, later, same, request⟩
    rcases List.eq_nil_or_concat' later with rfl | ⟨init, last, rfl⟩
    · obtain ⟨rfl, last⟩ := List.append_inj' same rfl
      cases last
      exact Or.inr request
    · rw [← List.cons_append, ← List.append_assoc] at same
      obtain ⟨rfl, -⟩ := List.append_inj' same rfl
      exact Or.inl ⟨before, found, init, rfl, request⟩
  · rintro (⟨before, found, later, rfl, request⟩ | request)
    · exact ⟨before, found, later ++ [event], by simp, request⟩
    · exact ⟨events, event, [], rfl, request⟩

end Run

/-- An event that requests a stop does nothing else to the course of the program. -/
theorem next_of_requests {moment : Moment} {event : Event} (requests : moment.Requests event) :
    (moment.next event).point = moment.point ∧
      (moment.next event).background = moment.background ∧
      (moment.next event).service.stopRequested = true := by
  cases event with
  | advance => exact requests.elim
  | signal signal =>
      rw [next_signal requests]
      exact ⟨rfl, rfl, rfl⟩
  | ends worker =>
      obtain ⟨-, before, ended⟩ := Service.exists_finish_of_endWorker moment.service worker
      rw [next_ends requests]
      exact ⟨rfl, rfl, by rw [behind, goTo, report, change, ended]; rfl⟩

/-- Any other event is a statement or changes nothing. -/
theorem next_of_not_requests {moment : Moment} {event : Event}
    (none : ¬ moment.Requests event) :
    moment.next event = moment ∨ event = .advance := by
  cases event with
  | advance => exact Or.inr rfl
  | signal signal => exact Or.inl (if_neg none)
  | ends worker => exact Or.inl (if_neg none)

theorem stopRequested_createWorker (service : Service) :
    service.createWorker.stopRequested = service.stopRequested := by
  unfold Service.createWorker
  split <;> rfl

theorem background_advance (moment : Moment) : moment.advance.background = moment.background := by
  obtain ⟨background, service, point, entered, log⟩ := moment
  cases point with
  | checking | waiting | taking | shuttingDown worker | joining worker =>
      simp only [advance]
      split <;> rfl
  | _ => rfl

/-- A statement that leads to a point where requests stand leaves the requests alone, or it is the
one that withdraws them. -/
theorem advance_of_keeps {moment : Moment}
    (keeps : moment.advance.point.keeps moment.background = true) :
    moment.point.keeps moment.background = true ∧
        moment.advance.service.stopRequested = moment.service.stopRequested ∨
      moment.point = .withdrawing ∧ moment.advance.service.stopRequested = false := by
  obtain ⟨background, service, point, entered, log⟩ := moment
  cases point with
  | installing =>
      cases background with
      | false => exact Or.inl ⟨rfl, rfl⟩
      | true => cases keeps
  | withdrawing => exact Or.inr ⟨rfl, rfl⟩
  | creating => exact Or.inl ⟨rfl, stopRequested_createWorker service⟩
  | starting | reporting | announcing => exact Or.inl ⟨rfl, rfl⟩
  | waiting =>
      simp only [advance] at keeps ⊢
      split at keeps
      next => cases keeps
      next waits =>
        rw [if_neg waits]
        exact Or.inl ⟨rfl, rfl⟩
  | checking | taking | shuttingDown worker | joining worker =>
      simp only [advance] at keeps
      split at keeps <;> cases keeps
  | _ => cases keeps

/-- Until requests are withdrawn, the program is on its way there. -/
theorem withdraws_of_advance {moment : Moment}
    (withdraws : moment.advance.point.withdraws moment.background = true) :
    moment.point.withdraws moment.background = true := by
  obtain ⟨background, service, point, entered, log⟩ := moment
  cases point with
  | installing =>
      cases background with
      | false => cases withdraws
      | true => rfl
  | setting | checking | withdrawing => rfl
  | waiting | taking | shuttingDown worker | joining worker =>
      simp only [advance] at withdraws
      split at withdraws <;> cases withdraws
  | _ => cases withdraws

theorem keeps_of_withdraws {background : Bool} {point : Point}
    (withdraws : point.withdraws background = true) : point.keeps background = false := by
  cases point with
  | installing =>
      rw [show background = true from withdraws]
      rfl
  | setting | checking | withdrawing => rfl
  | _ => cases withdraws

/-- Before requests are withdrawn none stands, and from then on the service has one exactly when one
stands. -/
structure Consistent (background : Bool) (moment : Moment) (stands : Prop) : Prop where
  mode : moment.background = background
  withdraws : moment.point.withdraws background = true → ¬ stands
  keeps : moment.point.keeps background = true →
    (moment.service.stopRequested = true ↔ stands)

section Step

variable {background : Bool} {moment : Moment} {stands : Prop}
  (consistent : Consistent background moment stands)

include consistent

/-- A statement leaves the requests alone unless it withdraws them, and none stood when it does. -/
theorem Consistent.advance : Consistent background moment.advance stands := by
  obtain ⟨rfl, withdraws, keeps⟩ := consistent
  refine ⟨background_advance moment, fun before => withdraws (withdraws_of_advance before), ?_⟩
  intro after
  rcases advance_of_keeps after with ⟨before, same⟩ | ⟨point, withdrawn⟩
  · rw [same]
    exact keeps before
  · have none := withdraws (by rw [point]; rfl)
    rw [withdrawn]
    exact iff_of_false Bool.false_ne_true none

theorem Consistent.next (event : Event) :
    Consistent background (moment.next event)
      (stands ∨ moment.Requests event ∧ moment.point.keeps background = true) := by
  by_cases requests : moment.Requests event
  · obtain ⟨point, mode, requested⟩ := next_of_requests requests
    refine ⟨mode.trans consistent.mode, fun withdraws => ?_, fun keeps => ?_⟩
    · rw [point] at withdraws
      rw [keeps_of_withdraws withdraws]
      rintro (stood | ⟨-, impossible⟩)
      · exact consistent.withdraws withdraws stood
      · exact Bool.false_ne_true impossible
    · rw [point] at keeps
      exact iff_of_true requested (Or.inr ⟨requests, keeps⟩)
  · have unchanged : (stands ∨ moment.Requests event ∧ moment.point.keeps background = true) ↔
        stands := or_iff_left fun both => requests both.1
    rw [unchanged]
    rcases next_of_not_requests requests with same | rfl
    · rw [same]
      exact consistent
    · exact consistent.advance

end Step

theorem consistent_initial (background : Bool) (service : Service) :
    Consistent background (initial background service) (Stands background service []) := by
  rw [stands_nil]
  refine ⟨rfl, fun withdraws both => ?_, fun keeps => ?_⟩
  · rw [both.1] at withdraws
    cases withdraws
  · cases background with
    | false => exact (and_iff_right rfl).symm
    | true => cases keeps

theorem consistent_momentAfter (background : Bool) (service : Service) (events : List Event) :
    Consistent background (momentAfter background service events)
      (Stands background service events) := by
  -- From the end, since what an event does depends on where the events before it have led.
  induction events using List.reverseRecOn with
  | nil => exact consistent_initial background service
  | append_singleton events event ih =>
      rw [momentAfter_concat, stands_concat]
      exact ih.next event

/-- While the program waits, a stop is requested exactly when some request stands: one that was made
in the foreground, or in the background after the start had withdrawn the earlier ones. -/
theorem stopRequested_iff_stands (background : Bool) (service : Service) (events : List Event)
    (waiting : (momentAfter background service events).point = .waiting) :
    (momentAfter background service events).service.stopRequested = true ↔
      Stands background service events :=
  (consistent_momentAfter background service events).keeps (by rw [waiting]; rfl)

/-- The service is started in the background, and the signal comes right after the start. -/
def signalAfterStart : List Event :=
  List.replicate 6 .advance ++ [.signal .interrupt, .advance, .advance]

theorem stopRequested_signalAfterStart :
    (momentAfter true (.new Service.defaultName false) signalAfterStart).point = .waiting ∧
      (momentAfter true (.new Service.defaultName false) signalAfterStart).service.stopRequested =
        true := by
  have waiting : (momentAfter true (.new Service.defaultName false) signalAfterStart).point =
      .waiting := by decide
  have caught : (momentAfter true (.new Service.defaultName false)
      (List.replicate 6 .advance)).service.catchesSignals = true := by decide
  refine ⟨waiting, (stopRequested_iff_stands true _ signalAfterStart waiting).mpr (Or.inr ?_)⟩
  exact ⟨List.replicate 6 .advance, .signal .interrupt, [.advance, .advance], rfl, caught,
    by decide⟩

/-- The service is to run in the background, and the signal comes before the start. -/
def signalBeforeStart : List Event :=
  [.advance, .signal .terminate] ++ List.replicate 7 .advance

/-- The signal is caught, but the program waits without a request to stop. -/
theorem lost_signalBeforeStart :
    (momentAfter true (.new Service.defaultName false) [.advance]).service.catchesSignals = true ∧
      (momentAfter true (.new Service.defaultName false) signalBeforeStart).point = .waiting ∧
      (momentAfter true (.new Service.defaultName false)
        signalBeforeStart).service.stopRequested = false := by
  decide

end Startup.Application
