import Sidekick.Web

namespace Sidekick.Web

def answer : Option Response → Except Fault String
  | none => .error (.network "offline")
  | some (.failure reason) => .error (.network reason)
  | some (.body text) => .ok text
  | some (.bytes b) => (Text.Utf8.decode b).map String.ofList |>.mapError .malformed

structure Requested (r : WebRequest) (w v : World) : Prop where
  events : v.events = w.events ++ [.requested r]
  responses : v.responses = w.responses.tail
  pick : v.pick = w.pick
  clock : v.clock = w.clock

variable {α : Type} (url : String) (headers : List (String × String)) (w : World)

theorem run_fetch_eq : (fetch url headers).run w = (answer w.responses.head?, { w with
    events := w.events ++ [.requested ⟨url, headers, timeout⟩]
    responses := w.responses.tail }) := by
  rw [fetch, Act.run_bind, record, Act.run_modify]
  simp only [Act.run_bind, Act.run_get]
  cases w.responses.head? with
  | none => rfl
  | some r =>
      cases r with
      | failure reason => rfl
      | body text => rfl
      | bytes b =>
          rw [answer]
          exact Act.run_ofExcept _ _

theorem run_fetch : ∃ v, (fetch url headers).run w = (answer w.responses.head?, v) ∧
    Requested ⟨url, headers, timeout⟩ w v :=
  ⟨_, run_fetch_eq url headers w, rfl, rfl, rfl, rfl⟩

def rescued (act : Act α) (line : Fault → String) : Act (Option α) :=
  tryCatch (some <$> act) fun fault => do
    say (line fault)
    return none

theorem run_rescued {r : WebRequest} {act : Act α} {result : Except Fault α} {w v : World}
    (run : act.run w = (result, v)) (asked : Requested r w v) (line : Fault → String) :
    ∃ v, (rescued act line).run w = (.ok result.toOption, v) ∧ Requested r w v := by
  rw [rescued, Act.run_tryCatch, ← bind_pure_comp, Act.run_bind, run]
  cases result with
  | ok x => exact ⟨v, rfl, asked⟩
  | error fault => exact ⟨_, rfl, asked.events, asked.responses, asked.pick, asked.clock⟩

end Sidekick.Web
