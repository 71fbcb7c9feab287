import Joinery.Compile
import Joinery.Proofs.Graph.Path

/-!
# Catalogs that are loaded once

A run of calls on one catalog behind a cache: loads, and requests and searches for joins that a compiler
answers by what it loads. The catalog behind the cache may end each of its attempts differently
(`successive`). A call depends on nothing but what its load gives (`CatalogCall.run_eq`), so the run is
known from the first attempt that succeeds: `cached_loads_once`.
-/

namespace Joinery

/-! ## Calls -/

/-- What a catalog is asked for. -/
inductive CatalogCall
  | load
  | compile (target : Target) (request : QueryRequest)
  | resolve (tables : List String)

/-- What a call gives. -/
inductive CatalogReply
  | links (result : Except CatalogError (List Link))
  | answer (result : Except CompileError Answer)
  | path (result : Except CompileError JoinPath)

namespace CatalogCall

/-- Makes a call. Requests and searches go through a compiler. -/
def run {m : Type → Type} [Monad m] (loader : LinkLoader m) : CatalogCall → m CatalogReply
  | load => .links <$> loader
  | compile target request => .answer <$> ({ loader, target } : Compiler m).compile request
  | resolve tables => .path <$> ({ loader } : Compiler m).resolve tables

/-- The reply where a load gives the given result. -/
def reply (loaded : Except CatalogError (List Link)) : CatalogCall → CatalogReply
  | load => .links loaded
  | compile target request => .answer (loaded.mapError .catalog >>= (Joinery.compile target · request))
  | resolve tables => .path (loaded.mapError .catalog >>= (resolveTables · tables))

variable {m : Type → Type} [Monad m] [LawfulMonad m]

theorem withLinks_eq {α : Type} (c : Compiler m) (answer : List Link → Except CompileError α) :
    c.withLinks answer = (fun loaded => loaded.mapError .catalog >>= answer) <$> c.loader := by
  rw [Compiler.withLinks, map_eq_pure_bind]
  refine bind_congr fun loaded => ?_
  cases loaded with
  | error e => rfl
  | ok links => rfl

/-- A call depends on nothing but what its load gives. -/
theorem run_eq (loader : LinkLoader m) (call : CatalogCall) :
    call.run loader = (call.reply ·) <$> loader := by
  cases call with
  | load => rfl
  | compile target request =>
    rw [run, Compiler.compile, withLinks_eq, ← comp_map]
    rfl
  | resolve tables =>
    rw [run, Compiler.resolve, withLinks_eq, ← comp_map]
    rfl

end CatalogCall

/-! ## Runs -/

/-- A catalog whose attempts end as given. The state is the number of attempts so far. -/
def LinkLoader.successive (results : Nat → Except CatalogError (List Link)) : LinkLoader (StateM Nat) :=
  modifyGet fun attempts => (results attempts, attempts + 1)

/-- How things stand after a call. -/
structure CatalogMoment where
  reply : CatalogReply
  /-- The links in the cache. -/
  kept : Option (List Link)
  isLoaded : Bool
  /-- How often the catalog behind the cache was asked. -/
  attempts : Nat

/-- What calls one after the other lead to, given what is in the cache and the number of attempts so
far. -/
def catalogRun (results : Nat → Except CatalogError (List Link)) :
    List CatalogCall → (kept : Option (List Link)) → (attempts : Nat) → List CatalogMoment
  | [], _, _ => []
  | call :: calls, kept, attempts =>
    let ((reply, kept), attempts) :=
      ((call.run (LinkLoader.successive results).cached).run kept).run attempts
    ⟨reply, kept, kept.isSome, attempts⟩ :: catalogRun results calls kept attempts

variable {results : Nat → Except CatalogError (List Link)} {links : List Link} {attempts : Nat}

/-- What is in the cache answers every call, and nothing else is asked. -/
theorem run_cached_of_kept (call : CatalogCall) :
    ((call.run (LinkLoader.successive results).cached).run (some links)).run attempts =
      ((call.reply (.ok links), some links), attempts) := by
  rw [CatalogCall.run_eq]
  rfl

/-- An empty cache asks once and keeps nothing but a success. -/
theorem run_cached_of_empty (call : CatalogCall) :
    ((call.run (LinkLoader.successive results).cached).run none).run attempts =
      ((call.reply (results attempts), (results attempts).toOption), attempts + 1) := by
  have asked : ((LinkLoader.successive results).cached.run none).run attempts =
      ((results attempts, (results attempts).toOption), attempts + 1) := by
    have loaded : (LinkLoader.successive results).run attempts = (results attempts, attempts + 1) := rfl
    simp only [LinkLoader.cached, StateT.run_bind, StateT.run_get, pure_bind, StateT.run_monadLift, monadLift_self,
      loaded]
    cases results attempts with
    | error e => rfl
    | ok links => rfl
  rw [CatalogCall.run_eq, StateT.run_map, StateT.run_map, asked]
  rfl

/-- Once the cache holds links, they answer all calls. -/
theorem catalogRun_of_kept {calls : List CatalogCall} {i : Nat} {call : CatalogCall}
    (asked : calls[i]? = some call) :
    (catalogRun results calls (some links) attempts)[i]? =
      some ⟨call.reply (.ok links), some links, true, attempts⟩ := by
  induction calls generalizing i with
  | nil => cases asked
  | cons first calls ih =>
    rw [catalogRun, run_cached_of_kept]
    cases i with
    | zero =>
      obtain rfl := Option.some.inj asked
      rfl
    | succ i => exact ih asked

/-- As long as attempts fail, each call makes one and passes on how it ended. -/
theorem catalogRun_of_failing (attempts : Nat) {calls : List CatalogCall} {i : Nat} {call : CatalogCall}
    (asked : calls[i]? = some call)
    (failing : ∀ j, attempts ≤ j → j < attempts + i + 1 → ∃ e, results j = .error e) :
    (catalogRun results calls none attempts)[i]? =
      some ⟨call.reply (results (attempts + i)), none, false, attempts + i + 1⟩ := by
  induction calls generalizing i attempts with
  | nil => cases asked
  | cons first calls ih =>
    obtain ⟨e, first_failed⟩ := failing attempts (by omega) (by omega)
    rw [catalogRun, run_cached_of_empty, first_failed]
    cases i with
    | zero =>
      obtain rfl := Option.some.inj asked
      change _ = some (CatalogMoment.mk (first.reply (results attempts)) none false (attempts + 1))
      rw [first_failed]
      rfl
    | succ i =>
      have rest := ih (attempts + 1) asked fun j h h' => failing j (by omega) (by omega)
      rw [Nat.add_right_comm attempts 1 i] at rest
      exact rest

/-- From the first attempt on that succeeds, its links answer all calls. -/
theorem catalogRun_of_first (attempts : Nat) {calls : List CatalogCall} {i k : Nat} {call : CatalogCall}
    (asked : calls[i]? = some call) (reached : k ≤ i) (loaded : results (attempts + k) = .ok links)
    (failing : ∀ j, attempts ≤ j → j < attempts + k → ∃ e, results j = .error e) :
    (catalogRun results calls none attempts)[i]? =
      some ⟨call.reply (.ok links), some links, true, attempts + k + 1⟩ := by
  induction calls generalizing i k attempts with
  | nil => cases asked
  | cons first calls ih =>
    rw [catalogRun, run_cached_of_empty]
    cases k with
    | zero =>
      rw [Nat.add_zero] at loaded ⊢
      rw [loaded]
      cases i with
      | zero =>
        obtain rfl := Option.some.inj asked
        rfl
      | succ i => exact catalogRun_of_kept asked
    | succ k =>
      obtain ⟨e, first_failed⟩ := failing attempts (by omega) (by omega)
      rw [first_failed]
      obtain ⟨i, rfl⟩ : ∃ i', i = i' + 1 := ⟨i - 1, by omega⟩
      have rest := ih (attempts + 1) asked (by omega : k ≤ i)
        (by rwa [Nat.add_right_comm attempts 1 k]) fun j h h' => failing j (by omega) (by omega)
      rw [Nat.add_right_comm attempts 1 k] at rest
      exact rest

/-- A catalog behind a cache is asked once a call until it succeeds, and each of these calls is answered by
how its own attempt ended. The links of the first attempt that succeeds stay in the cache: they answer every
later call, whatever becomes of it, and the catalog is not asked again. -/
theorem cached_loads_once (results : Nat → Except CatalogError (List Link)) (calls : List CatalogCall)
    {i : Nat} {call : CatalogCall} (asked : calls[i]? = some call) :
    ((∀ j ≤ i, ∃ e, results j = .error e) →
      (catalogRun results calls none 0)[i]? =
        some ⟨call.reply (results i), none, false, i + 1⟩) ∧
    ∀ k links, k ≤ i → (∀ j < k, ∃ e, results j = .error e) → results k = .ok links →
      (catalogRun results calls none 0)[i]? =
        some ⟨call.reply (.ok links), some links, true, k + 1⟩ := by
  constructor
  · intro failing
    have run := catalogRun_of_failing 0 asked fun j _ h => failing j (by omega)
    rwa [Nat.zero_add] at run
  · intro k links reached failing loaded
    have run := catalogRun_of_first 0 asked reached (by rwa [Nat.zero_add])
      fun j _ h => failing j (by omega)
    rwa [Nat.zero_add] at run

/-- A catalog that is there from the second attempt on, and empty from the third. -/
def lateCatalog : Nat → Except CatalogError (List Link)
  | 0 => .error (.unreadable "links.json")
  | 1 => .ok JoinGraph.schoolLinks
  | _ => .ok []

/-- The search for a table that is not there fails, which leaves the cache as it is. -/
theorem late_catalog_loads_once :
    let calls : List CatalogCall := [.load, .load, .resolve ["fact", "room"], .resolve ["fact", "term"]]
    (catalogRun lateCatalog calls none 0)[0]? =
      some ⟨.links (.error (.unreadable "links.json")), none, false, 1⟩ ∧
    (catalogRun lateCatalog calls none 0)[2]? =
      some ⟨.path (.error (.graph (.unknownTable "room"))), some JoinGraph.schoolLinks, true, 2⟩ ∧
    (catalogRun lateCatalog calls none 0)[3]? =
      some ⟨.path (.ok ⟨[⟨"fact", "term"⟩]⟩), some JoinGraph.schoolLinks, true, 2⟩ := by
  intro calls
  have no_room : resolveTables JoinGraph.schoolLinks ["fact", "room"] =
      .error (.graph (.unknownTable "room")) := by decide +kernel
  have facts_by_term : resolveTables JoinGraph.schoolLinks ["fact", "term"] =
      .ok ⟨[⟨"fact", "term"⟩]⟩ := by decide +kernel
  have failed : ∃ e, lateCatalog 0 = .error e := ⟨_, rfl⟩
  have failed_before : ∀ j < 1, ∃ e, lateCatalog j = .error e := by simpa using failed
  refine ⟨?_, ?_, ?_⟩
  · exact (cached_loads_once lateCatalog calls (i := 0) rfl).1 (by simpa using failed)
  · rw [(cached_loads_once lateCatalog calls (i := 2) rfl).2 1 _ (by omega) failed_before rfl, ← no_room]
    rfl
  · rw [(cached_loads_once lateCatalog calls (i := 3) rfl).2 1 _ (by omega) failed_before rfl,
      ← facts_by_term]
    rfl

end Joinery
