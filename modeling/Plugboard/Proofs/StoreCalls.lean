import Plugboard.Store.Basic
import Plugboard.Proofs.Exec
/-!
# Calls of the storage interface

The storage interface is the same for every kind of store: save, get, delete, list, update,
update status, update metrics, get by endpoint, search, count, close and health check. A
`StoreCall` is one of them with its arguments, and `StoreOps σ` gives the operation of each call
on one kind of store, so that a run of calls can be stated once for all kinds: the answers a
sequence of calls gets, each call made from where the one before left off.

A store that is a single tier runs each call as the tier does.
-/

namespace Plugboard

/-- A call of the storage interface, with its arguments. -/
inductive StoreCall where
  | save (r : Registration)
  | get (id : String)
  | delete (id : String)
  | list (f : Filter)
  | update (r : Registration)
  | updateStatus (id : String) (s : Status)
  | updateMetrics (id : String) (m : Metrics)
  | getByEndpoint (e : String)
  | search (q : String) (f : Filter)
  | count
  | close
  | healthCheck

/-- What a call answers. -/
inductive StoreReply where
  | done
  | one (r : Registration)
  | all (rs : List Registration)
  | number (n : Nat)
  | flag (b : Bool)

namespace StoreCall

/-- The ids a call names. -/
def ids : StoreCall → List String
  | .save r => [r.id]
  | .get id => [id]
  | .delete id => [id]
  | .update r => [r.id]
  | .updateStatus id _ => [id]
  | .updateMetrics id _ => [id]
  | _ => []

/-- Whether a call only reads the store: a lookup, a listing, a count or a health check. -/
def reads : StoreCall → Bool
  | .get _ | .list _ | .getByEndpoint _ | .search _ _ | .count | .healthCheck => true
  | _ => false

end StoreCall

/-- The storage interface over one kind of store: an operation for each call. -/
structure StoreOps (σ : Type) where
  save : Registration → Act σ Unit
  get : String → Act σ Registration
  delete : String → Act σ Unit
  list : Filter → Act σ (List Registration)
  update : Registration → Act σ Unit
  updateStatus : String → Status → Act σ Unit
  updateMetrics : String → Metrics → Act σ Unit
  getByEndpoint : String → Act σ Registration
  search : String → Filter → Act σ (List Registration)
  count : Act σ Nat
  close : Act σ Unit
  healthCheck : Act σ Bool

namespace StoreOps

variable {σ : Type} (o : StoreOps σ)

/-- Runs a call. -/
def call : StoreCall → Act σ StoreReply
  | .save r => (fun _ => .done) <$> o.save r
  | .get id => .one <$> o.get id
  | .delete id => (fun _ => .done) <$> o.delete id
  | .list f => .all <$> o.list f
  | .update r => (fun _ => .done) <$> o.update r
  | .updateStatus id s => (fun _ => .done) <$> o.updateStatus id s
  | .updateMetrics id m => (fun _ => .done) <$> o.updateMetrics id m
  | .getByEndpoint e => .one <$> o.getByEndpoint e
  | .search q f => .all <$> o.search q f
  | .count => .number <$> o.count
  | .close => (fun _ => .done) <$> o.close
  | .healthCheck => .flag <$> o.healthCheck

/-- The answers to calls made one after another, each from where the one before left off. -/
def answers : List StoreCall → σ → Env → List (Outcome StoreReply)
  | [], _, _ => []
  | c :: cs, s, env =>
    let r := (o.call c).exec s env
    r.1 :: answers cs r.2.1 r.2.2

/-- The store and the environment after calls made one after another. -/
def after : List StoreCall → σ → Env → σ × Env
  | [], s, env => (s, env)
  | c :: cs, s, env =>
    let r := (o.call c).exec s env
    after cs r.2.1 r.2.2

/-- A property that holds of the store and the environment after each call of a run. -/
def Along (P : σ → Env → Prop) : List StoreCall → σ → Env → Prop
  | [], _, _ => True
  | c :: cs, s, env =>
    let r := (o.call c).exec s env
    P r.2.1 r.2.2 ∧ Along P cs r.2.1 r.2.2

@[simp] theorem answers_nil (s : σ) (env : Env) : o.answers [] s env = [] := rfl

@[simp] theorem answers_cons (c : StoreCall) (cs : List StoreCall) (s : σ) (env : Env) :
    o.answers (c :: cs) s env =
      ((o.call c).exec s env).1 ::
        o.answers cs ((o.call c).exec s env).2.1 ((o.call c).exec s env).2.2 := rfl

@[simp] theorem after_nil (s : σ) (env : Env) : o.after [] s env = (s, env) := rfl

@[simp] theorem after_cons (c : StoreCall) (cs : List StoreCall) (s : σ) (env : Env) :
    o.after (c :: cs) s env =
      o.after cs ((o.call c).exec s env).2.1 ((o.call c).exec s env).2.2 := rfl

@[simp] theorem along_nil (P : σ → Env → Prop) (s : σ) (env : Env) : o.Along P [] s env := trivial

@[simp] theorem along_cons (P : σ → Env → Prop) (c : StoreCall) (cs : List StoreCall) (s : σ)
    (env : Env) :
    o.Along P (c :: cs) s env ↔
      P ((o.call c).exec s env).2.1 ((o.call c).exec s env).2.2 ∧
        o.Along P cs ((o.call c).exec s env).2.1 ((o.call c).exec s env).2.2 := Iff.rfl

end StoreOps

/-- The memory store's operations. -/
def MemoryStore.ops : StoreOps MemoryStore where
  save := MemoryStore.save
  get := MemoryStore.get
  delete := MemoryStore.delete
  list := MemoryStore.list
  update := MemoryStore.update
  updateStatus := MemoryStore.updateStatus
  updateMetrics := MemoryStore.updateMetrics
  getByEndpoint := MemoryStore.getByEndpoint
  search := MemoryStore.search
  count := MemoryStore.count
  close := MemoryStore.close
  healthCheck := MemoryStore.healthCheck

/-- The file store's operations. -/
def FileStore.ops : StoreOps FileStore where
  save := FileStore.save
  get := FileStore.get
  delete := FileStore.delete
  list := FileStore.list
  update := FileStore.update
  updateStatus := FileStore.updateStatus
  updateMetrics := FileStore.updateMetrics
  getByEndpoint := FileStore.getByEndpoint
  search := FileStore.search
  count := FileStore.count
  close := FileStore.close
  healthCheck := FileStore.healthCheck

/-- A tier's operations. -/
def Tier.ops : StoreOps Tier where
  save := Tier.save
  get := Tier.get
  delete := Tier.delete
  list := Tier.list
  update := Tier.update
  updateStatus := Tier.updateStatus
  updateMetrics := Tier.updateMetrics
  getByEndpoint := Tier.getByEndpoint
  search := Tier.search
  count := Tier.count
  close := Tier.close
  healthCheck := Tier.healthCheck

/-- A store's operations, single or cached. -/
def Store.ops : StoreOps Store where
  save := Store.save
  get := Store.get
  delete := Store.delete
  list := Store.list
  update := Store.update
  updateStatus := Store.updateStatus
  updateMetrics := Store.updateMetrics
  getByEndpoint := Store.getByEndpoint
  search := Store.search
  count := Store.count
  close := Store.close
  healthCheck := Store.healthCheck

open Act

namespace Tier

variable {α : Type} (env : Env)

theorem exec_run_memory (m : MemoryStore) (a : Act MemoryStore α) (b : Act FileStore α) :
    (Tier.run a b).exec (.memory m) env =
      ((a.exec m env).1, .memory (a.exec m env).2.1, (a.exec m env).2.2) := rfl

theorem exec_run_file (f : FileStore) (a : Act MemoryStore α) (b : Act FileStore α) :
    (Tier.run a b).exec (.file f) env =
      ((b.exec f env).1, .file (b.exec f env).2.1, (b.exec f env).2.2) := rfl

/-- A memory tier answers each call as the memory store does. -/
theorem exec_call_memory (m : MemoryStore) (c : StoreCall) :
    (ops.call c).exec (.memory m) env =
      (((MemoryStore.ops.call c).exec m env).1, .memory ((MemoryStore.ops.call c).exec m env).2.1,
        ((MemoryStore.ops.call c).exec m env).2.2) := by
  cases c <;>
    simp only [StoreOps.call, ops, MemoryStore.ops, exec_map, save, get, delete, list, update,
      updateStatus, updateMetrics, getByEndpoint, search, count, close, healthCheck,
      exec_run_memory]

/-- A file tier answers each call as the file store does. -/
theorem exec_call_file (f : FileStore) (c : StoreCall) :
    (ops.call c).exec (.file f) env =
      (((FileStore.ops.call c).exec f env).1, .file ((FileStore.ops.call c).exec f env).2.1,
        ((FileStore.ops.call c).exec f env).2.2) := by
  cases c <;>
    simp only [StoreOps.call, ops, FileStore.ops, exec_map, save, get, delete, list,
      update, updateStatus, updateMetrics, getByEndpoint, search, count, close, healthCheck,
      exec_run_file]

end Tier

namespace Store

variable {α : Type} (env : Env)

theorem exec_onBackend_single (t : Tier) (a : Act Tier α) :
    (onBackend a).exec (.single t) env =
      ((a.exec t env).1, .single (a.exec t env).2.1, (a.exec t env).2.2) := rfl

theorem exec_run_single (t : Tier) (a : Act Tier α) (b : Act Store α) :
    (Store.run a b).exec (.single t) env =
      ((a.exec t env).1, .single (a.exec t env).2.1, (a.exec t env).2.2) := rfl

theorem exec_run_cached (c : MemoryStore) (t : Tier) (a : Act Tier α) (b : Act Store α) :
    (Store.run a b).exec (.cached c t) env = b.exec (.cached c t) env := rfl

/-- A store that is a single tier answers each call as the tier does. -/
theorem exec_call_single (t : Tier) (c : StoreCall) :
    (Store.ops.call c).exec (.single t) env =
      (((Tier.ops.call c).exec t env).1, .single ((Tier.ops.call c).exec t env).2.1,
        ((Tier.ops.call c).exec t env).2.2) := by
  cases c <;>
    simp only [StoreOps.call, Store.ops, Tier.ops, exec_map, save, get, delete, list, update,
      updateStatus, updateMetrics, getByEndpoint, search, count, close, healthCheck,
      exec_run_single, exec_onBackend_single]

/-- A store that is a memory tier answers each call as the memory store does. -/
theorem exec_call_memory (m : MemoryStore) (c : StoreCall) :
    (Store.ops.call c).exec (.single (.memory m)) env =
      (((MemoryStore.ops.call c).exec m env).1,
        .single (.memory ((MemoryStore.ops.call c).exec m env).2.1),
        ((MemoryStore.ops.call c).exec m env).2.2) := by
  rw [exec_call_single, Tier.exec_call_memory]

/-- A store that is a file tier answers each call as the file store does. -/
theorem exec_call_file (f : FileStore) (c : StoreCall) :
    (Store.ops.call c).exec (.single (.file f)) env =
      (((FileStore.ops.call c).exec f env).1, .single (.file ((FileStore.ops.call c).exec f env).2.1),
        ((FileStore.ops.call c).exec f env).2.2) := by
  rw [exec_call_single, Tier.exec_call_file]

end Store

end Plugboard
