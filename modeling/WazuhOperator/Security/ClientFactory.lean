import Mathlib.Data.List.Basic
import Mathlib.Data.Set.Operations
import WazuhOperator.Cluster.Events
import WazuhOperator.Library.Runs

namespace WazuhOperator
namespace Security

/-!
# The cache of OpenSearch clients

`GetClientForCluster`.  A call reads the two Secrets, looks the cluster up in
the cache and, unless it finds the hash of what it read, makes a client and
stores it.  Lookup and store are two critical sections, and the calls interleave.
-/

open Runs

/-- What one call has read.  The names of objects have no slash. -/
structure Call where
  key : ClusterKey
  read : Credentials
  named : '/' ∉ key.nspace.toList ∧ '/' ∉ key.name.toList

/-- SHA-256 in hexadecimal, and the domain of the URLs. -/
structure Factory where
  sha256 : String -> String
  domain : String

structure CachedClient where
  client : Client
  credsHash : String

/-- The calls in `pending` have found no client and have to make one. -/
structure CacheState where
  cache : String -> Option CachedClient := fun _ => none
  pending : List Call := []

inductive CacheMove where
  | lookup (call : Call)
  | store (index : Nat) (made : Bool)

def cacheKey (key : ClusterKey) : String := key.nspace ++ "/" ++ key.name

namespace Factory

variable (factory : Factory)

def computeCredsHash (read : Credentials) : String :=
  let sum := factory.sha256 (read.username ++ "\x00" ++ read.password ++ "\x00" ++ read.caCert)
  String.ofList (sum.toList.take 16)

def newClient (call : Call) : Client := call.read.client (openSearchURL factory.domain call.key)

def cached (state : CacheState) (call : Call) : Option Client :=
  (state.cache (cacheKey call.key)).bind fun entry =>
    if entry.credsHash = factory.computeCredsHash call.read then some entry.client else none

def step (state : CacheState) : CacheMove -> CacheState
  | .lookup call =>
    if (factory.cached state call).isSome then state
    else { state with pending := call :: state.pending }
  | .store index made =>
    match state.pending[index]? with
    | none => state
    | some call =>
      { cache key := if made && key = cacheKey call.key then
          some ⟨factory.newClient call, factory.computeCredsHash call.read⟩ else state.cache key
        pending := state.pending.eraseIdx index }

/-- The call which returns in this move, with its client. -/
def returned (state : CacheState) : CacheMove -> Option (Call × Client)
  | .lookup call => (factory.cached state call).map (call, ·)
  | .store index made => (state.pending[index]?.filter fun _ => made).map fun call =>
      (call, factory.newClient call)

def Fresh (state : CacheState) (move : CacheMove) : Prop :=
  ∀ answer ∈ factory.returned state move, answer.2 = factory.newClient answer.1

theorem cacheKey_injective {call other : Call} (same : cacheKey call.key = cacheKey other.key) :
    call.key = other.key := by
  have letters : call.key.nspace.toList ++ '/' :: call.key.name.toList =
      other.key.nspace.toList ++ '/' :: other.key.name.toList := by
    simpa [cacheKey] using congrArg String.toList same
  obtain ⟨nspaces, -, names⟩ := (List.append_cons_inj_of_notMem call.named.1 call.named.2).mp letters
  rw [ClusterKey.mk.injEq]
  exact ⟨String.toList_inj.mp nspaces, String.toList_inj.mp names⟩

/-- Every client in the cache is the one a call has made, with the hash of what it read. -/
def Bound (allowed : Set Credentials) (state : CacheState) : Prop :=
  (∀ call ∈ state.pending, call.read ∈ allowed) ∧
    forall key, ∀ entry ∈ state.cache key, ∃ call : Call, call.read ∈ allowed ∧ cacheKey call.key = key ∧
      entry = ⟨factory.newClient call, factory.computeCredsHash call.read⟩

def Reads (allowed : Set Credentials) : CacheMove -> Prop
  | .lookup call => call.read ∈ allowed
  | .store .. => True

variable {factory} {allowed : Set Credentials}

theorem bound_step (state : CacheState) (move : CacheMove) (bound : factory.Bound allowed state)
    (reads : Reads allowed move) : factory.Bound allowed (factory.step state move) := by
  cases move with
  | lookup call =>
    simp only [step]
    split
    · exact bound
    · exact ⟨List.forall_mem_cons.mpr ⟨reads, bound.1⟩, bound.2⟩
  | store index made =>
    simp only [step]
    split
    · exact bound
    · next call found =>
      refine ⟨fun other mem => bound.1 other (List.mem_of_mem_eraseIdx mem), fun key entry mem => ?_⟩
      simp only at mem
      split at mem
      · next stored =>
        cases mem
        exact ⟨call, bound.1 call (List.mem_of_getElem? found), by simp_all, rfl⟩
      · exact bound.2 key entry mem

theorem fresh_of_bound (apart : Set.InjOn factory.computeCredsHash allowed) (state : CacheState)
    (move : CacheMove) (bound : factory.Bound allowed state) (reads : Reads allowed move) :
    factory.Fresh state move := by
  intro answer mem
  cases move with
  | lookup call =>
    simp only [returned, cached, Option.mem_def, Option.map_eq_some_iff, Option.bind_eq_some_iff,
      Option.ite_none_right_eq_some, Option.some.injEq] at mem
    obtain ⟨client, ⟨entry, stored, fits, rfl⟩, rfl⟩ := mem
    obtain ⟨maker, allowedMaker, sameKey, rfl⟩ := bound.2 _ entry stored
    have sameRead := apart allowedMaker reads fits
    simp only [newClient, sameRead, cacheKey_injective sameKey]
  | store index made =>
    simp only [returned, Option.mem_def, Option.map_eq_some_iff] at mem
    obtain ⟨call, -, rfl⟩ := mem
    rfl

/-- In every interleaving each call gets a client made from its own reading, if and only if no two
possible readings have the same hash. -/
theorem clients_fresh_iff (factory : Factory) (allowed : Set Credentials) :
    (forall moves, (∀ move ∈ moves, Reads allowed move) -> Along factory.step factory.Fresh { } moves) <->
      Set.InjOn factory.computeCredsHash allowed := by
  constructor
  · intro fresh read allowedRead other allowedOther alike
    let first : Call := ⟨⟨"", ""⟩, read, by simp⟩
    let second : Call := ⟨⟨"", ""⟩, other, by simp⟩
    have along := fresh [.lookup first, .store 0 true, .lookup second] (by simp [Reads, first, second, *])
    have same := along.2.2.1 (second, factory.newClient first) (by
      simp [returned, cached, step, first, second, alike])
    cases read
    cases other
    simpa [newClient, Credentials.client, first, second] using same
  · intro apart moves reads
    exact along_of_invariant bound_step (fresh_of_bound apart) moves { } ⟨by simp, by simp⟩
      (along_of_forall (fun move mem _ => reads move mem) _)

end Factory

end Security
end WazuhOperator
