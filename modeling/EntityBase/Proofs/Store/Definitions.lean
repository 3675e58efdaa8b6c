import EntityBase.Proofs.Registry.History
import EntityBase.Proofs.Store.Regular

/-!
# Definitions of a store — what its registry goes through

A store asks its registry for what its calls bring along: a registration is one
request, a batch that is accepted one for each of its schemas, and every other
call none. So the registry of a store is one that requests lead to, and a later
registry of the same store one that further requests lead to
(`registry_attempt`). The one exception is a copy that takes neither entities
nor definitions along: it starts from no definitions.

`definitions_stay` puts together what that says of ids, hashes and uris.
-/

namespace EntityBase

open Registry (Request)

namespace Store

variable {s t : Store} {shadowing : Bool}

/-- A copy that leaves all definitions behind. -/
def Call.forgets : Call → Bool
  | .clone options => !options.entities && !options.definitions
  | _ => false

/-- The requests of a batch of schemas. -/
def requestsOf (shadowing : Bool) (schemas : List Schema) : List Request :=
  schemas.map fun schema => ⟨schema, shadowing⟩

theorem shadowing_of_mem_requestsOf {schemas : List Schema} :
    ∀ q ∈ requestsOf shadowing schemas, q.shadowing = shadowing := by
  intro q hq
  obtain ⟨schema, -, rfl⟩ := List.mem_map.1 hq
  rfl

/-- Schemas that are all accepted are so many requests. -/
theorem afterAll_requestsOf {r r' : Registry} {schemas : List Schema}
    (h : registerAll shadowing r schemas = .ok r') :
    r.afterAll (requestsOf shadowing schemas) = r' := by
  induction schemas generalizing r with
  | nil => exact Except.ok.inj h
  | cons schema rest ih =>
    rw [registerAll_cons] at h
    cases hreg : r.register schema shadowing with
    | error e =>
      rw [hreg] at h
      cases h
    | ok p =>
      obtain ⟨next, outcome⟩ := p
      rw [hreg] at h
      have hnext : r.after ⟨schema, shadowing⟩ = next := Registry.after_of_ok hreg
      change (r.after ⟨schema, shadowing⟩).afterAll (requestsOf shadowing rest) = r'
      rw [hnext]
      exact ih h

/-- Carrying out a plan leaves the registry alone. -/
theorem registry_add {item : Item} {options : CallOptions} (h : s.add item options = .ok t) :
    t.registry = s.registry.afterAll (requestsOf s.shadowing item.batch.schemas) := by
  obtain ⟨r, p, hreg, -, rfl⟩ := add_cases h
  rw [afterAll_requestsOf hreg]
  exact registry_eq_of_header (header_apply p _)

theorem registry_opened (s : Store) (options : CallOptions) :
    (s.opened options).registry = s.registry := by
  unfold opened
  split <;> rfl

/-- **What an accepted call asks the registry for.** -/
theorem registry_attempt {call : Call} (h : s.attempt call = .ok t) :
    (call.forgets = true ∧ t.registry = .empty) ∨
      ∃ requests : List Request, (∀ q ∈ requests, q.shadowing = s.shadowing) ∧
        t.registry = s.registry.afterAll requests := by
  have hnone (hsame : t.registry = s.registry) : ∃ requests : List Request,
      (∀ q ∈ requests, q.shadowing = s.shadowing) ∧ t.registry = s.registry.afterAll requests :=
    ⟨[], nofun, hsame⟩
  cases call with
  | register schema =>
    obtain ⟨r, outcome, hreg, rfl⟩ := register_cases h
    refine .inr ⟨[⟨schema, s.shadowing⟩], by simp, ?_⟩
    exact (Registry.after_of_ok hreg).symm
  | add item options =>
    rw [attempt_add] at h
    exact .inr ⟨_, shadowing_of_mem_requestsOf, registry_add h⟩
  | removeComponents ids options =>
    obtain rfl := Except.ok.inj h
    have hheader := header_dropRows (s.opened options) (keySet ids)
    exact .inr (hnone ((registry_eq_of_header hheader).trans (registry_opened s options)))
  | removeEntities ids options =>
    obtain rfl := Except.ok.inj h
    have hheader := header_dropRows (s.opened options) (s.rowsOfAll ids)
    exact .inr (hnone ((registry_eq_of_header hheader).trans (registry_opened s options)))
  | clearChanges =>
    obtain rfl := Except.ok.inj h
    exact .inr (hnone rfl)
  | clone options =>
    obtain rfl := Except.ok.inj h
    obtain ⟨entities, definitions⟩ := options
    cases entities <;> cases definitions
    · exact .inl ⟨rfl, rfl⟩
    all_goals exact .inr (hnone rfl)

/-- **The registry of every store** is one that requests under its policy lead to. -/
theorem exists_requests (shadowing : Bool) (calls : List Call) :
    ∃ requests : List Request, (∀ q ∈ requests, q.shadowing = shadowing) ∧
      ((empty shadowing).afterAll calls).registry = Registry.empty.afterAll requests := by
  have hkept : Kept (fun _ => True) fun t => t.Regular shadowing ∧
      ∃ requests : List Request, (∀ q ∈ requests, q.shadowing = shadowing) ∧
        t.registry = Registry.empty.afterAll requests := by
    rintro s call t - ⟨hs, requests, hpolicy, hregistry⟩ h
    refine ⟨kept_regular shadowing s call t trivial hs h, ?_⟩
    rcases registry_attempt h with ⟨-, hempty⟩ | ⟨more, hmore, hafter⟩
    · exact ⟨[], nofun, hempty⟩
    · refine ⟨requests ++ more, fun q hq => ?_, ?_⟩
      · rcases List.mem_append.1 hq with hq | hq
        · exact hpolicy q hq
        · rw [hmore q hq, hs.policy]
      · rw [hafter, hregistry, Registry.afterAll_append]
  exact (hkept.afterAll (fun _ _ => trivial) ⟨regular_empty shadowing, [], nofun, rfl⟩).2

/-- What a store has registered it keeps, as long as its definitions are not left
behind. -/
theorem keeps_afterAll (hs : s.registry.Sound) {later : List Call}
    (hlater : ∀ call ∈ later, call.forgets = false) :
    s.registry.Keeps (s.afterAll later).registry := by
  have hkept : Kept (fun call => call.forgets = false) fun t =>
      ∃ requests : List Request, t.registry = s.registry.afterAll requests := by
    rintro u call t hcall ⟨requests, hregistry⟩ h
    rcases registry_attempt h with ⟨hforgets, -⟩ | ⟨more, -, hafter⟩
    · rw [hcall] at hforgets
      cases hforgets
    · exact ⟨requests ++ more, by rw [hafter, hregistry, Registry.afterAll_append]⟩
  obtain ⟨requests, hregistry⟩ := hkept.afterAll hlater ⟨[], rfl⟩
  rw [hregistry]
  exact hs.keeps_afterAll requests

/-- **Definitions stay.** A registry that any requests led to, refused ones among them,
numbers its definitions from one in the order in which their content first came, with
distinct hashes; a hash finds the one definition that bears it and a uri the newest one
that does. Asking for known content gives its id and changes nothing, new content takes
the next id, and without an id left it is refused. Whatever is found by its id or hash
stays so with its content, and where no request could take over a uri, no two
definitions share one.

The registry of every store is one of these. What a store has registered it keeps through
all later calls, and so does every row the definition that it is by. -/
theorem definitions_stay :
    (∀ requests : List Request,
      let r := Registry.empty.afterAll requests
      r.Indexed ∧ (∀ schema shadowing, r.Answers schema shadowing) ∧
      (∀ later, r.Keeps (r.afterAll later)) ∧
      ((∀ q ∈ requests, q.shadowing = false) → r.DistinctUris)) ∧
    ∀ (shadowing : Bool) (calls : List Call),
      let s := (empty shadowing).afterAll calls
      (∃ requests : List Request, (∀ q ∈ requests, q.shadowing = shadowing) ∧
        s.registry = Registry.empty.afterAll requests) ∧
      ∀ later : List Call, (∀ call ∈ later, call.forgets = false) →
        s.registry.Keeps (s.afterAll later).registry ∧
        ∀ id c, s.component? id = some c → ∃ d, s.definition? (.id c.defId) = some d ∧
          (s.afterAll later).definition? (.id c.defId) = some d := by
  refine ⟨fun requests => ?_, fun shadowing calls => ?_⟩
  · have hr : (Registry.empty.afterAll requests).Sound := Registry.sound_afterAll requests
    exact ⟨hr.indexed, hr.answers, hr.keeps_afterAll, Registry.distinctUris_afterAll⟩
  · have hconsistent : ((empty shadowing).afterAll calls).Consistent :=
      kept_consistent.afterAll (fun _ _ => trivial) (consistent_empty shadowing)
    have hregular : ((empty shadowing).afterAll calls).Regular shadowing :=
      (kept_regular shadowing).afterAll (fun _ _ => trivial) (regular_empty shadowing)
    refine ⟨exists_requests shadowing calls, fun later hlater => ?_⟩
    have hkeeps := keeps_afterAll hregular.sound hlater
    refine ⟨hkeeps, fun id c hc => ?_⟩
    -- a stored row is by a registered definition
    obtain ⟨hkeyed, -, hregistered, -⟩ := hconsistent.row id c hc
    subst hkeyed
    obtain ⟨d, hd⟩ := Option.isSome_iff_exists.1 hregistered
    exact ⟨d, hd, hkeeps.byId _ d hd⟩

end Store

end EntityBase
