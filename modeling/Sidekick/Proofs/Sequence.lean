import Sidekick.World

namespace Sidekick.Act

variable {α β : Type}

def proceed (next : α → Act β) : Except Fault α → Act β
  | .ok x => next x
  | .error fault => throw fault

def recover (rescue : Fault → Act α) : Except Fault α → Act α
  | .ok x => pure x
  | .error fault => rescue fault

theorem run_bind_eq (act : Act α) (next : α → Act β) (w : World) :
    (act >>= next).run w = (proceed next (act.run w).1).run (act.run w).2 := by
  rw [run_bind]
  rcases act.run w with ⟨_ | _, _⟩ <;> rfl

theorem run_tryCatch_eq (act : Act α) (rescue : Fault → Act α) (w : World) :
    (tryCatch act rescue).run w = (recover rescue (act.run w).1).run (act.run w).2 := by
  rw [run_tryCatch]
  rcases act.run w with ⟨_ | _, _⟩ <;> rfl

end Sidekick.Act
