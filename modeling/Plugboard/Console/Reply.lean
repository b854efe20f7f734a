import Plugboard.Console.Args
import Plugboard.Env
/-!
# Replies

A reply to a request reads its arguments, acts on the shared environment, and gives an answer;
reading can refuse the request. Actions of components run inside a reply with their outcome in
hand, so that a failure of the library becomes part of the answer rather than a refusal.
-/

namespace Plugboard.Console

/-- Building the answer to a request: it may be refused, and it reads and changes the
environment. -/
abbrev Reply (α : Type) := ExceptT String (StateM Env) α

namespace Reply

variable {σ α : Type}

/-- Refuses the request unless an argument could be read. -/
def ofDecode : Decode α → Reply α
  | .ok x => pure x
  | .error m => throw m

/-- Runs an action that needs no state of its own; its outcome. -/
def act (a : Act Unit α) : Reply (Outcome α) :=
  ExceptT.mk fun env =>
    let (r, _, env') := a.exec () env
    pure (.ok r, env')

/-- Runs an action of a component; its outcome and the component after it. -/
def actOn (s : σ) (a : Act σ α) : Reply (Outcome α × σ) :=
  ExceptT.mk fun env =>
    let (r, s', env') := a.exec s env
    pure (.ok (r, s'), env')

/-- Reads the clock. -/
def now : Reply Instant := do
  let env ← get
  let (t, c) := env.clock.now
  set { env with clock := c }
  return t

/-- The answer a reply gives from an environment, a refusal included. -/
def answer (r : Reply Json) (env : Env) : Json × Env :=
  match (ExceptT.run r).run env with
  | (.ok j, env') => (j, env')
  | (.error m, env') => (refusal m, env')

end Reply

end Plugboard.Console
