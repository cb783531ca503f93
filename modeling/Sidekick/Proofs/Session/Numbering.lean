import Sidekick.Proofs.Session.Changes
import Sidekick.Proofs.Timer.Checking

namespace Sidekick

/-- A world that some session comes to. -/
inductive Reachable : World → Prop
  | start {w : World} (empty : w.store = .empty) : Reachable w
  | step {w : World} (h : Reachable w) (s : Step) : Reachable (s.run.report w).world

def Act.Keeps {α : Type} (act : Act α) : Prop :=
  ∀ w : World, w.store.Numbered → (act.run w).2.store.Numbered

theorem World.Changes.numbered {w v : World} (h : w.Changes v) (numbered : w.store.Numbered) :
    v.store.Numbered := by
  induction h with
  | refl => exact numbered
  | tail _ change ih =>
      cases change with
      | other store =>
          rw [store]
          exact ih
      | scheduled start c conversation => exact ih.schedule start c conversation
      | expired now =>
          rw [Store.expire, List.partition_eq_filter_filter]
          exact ih.filter _

theorem keeps_step (s : Step) : s.run.Keeps := by
  intro w numbered
  rcases changes_step s w with changes | ⟨entry, changes⟩
  · exact changes.numbered numbered
  · exact changes.numbered numbered

theorem numbered_of_reachable {w : World} (h : Reachable w) : w.store.Numbered := by
  induction h with
  | start empty =>
      rw [empty]
      exact ⟨.nil, fun t ht => nomatch ht⟩
  | step _ s ih => exact keeps_step s _ ih

end Sidekick
