import EntityBase.Proofs.Registry.Copy
import Mathlib.Data.List.Nodup

/-!
# Histories of a registry — what any registrations lead to

A registry is used by requests, one after another, and one that is refused
leaves it as it is. `Indexed` is what its look-ups say of it in terms of the
list of its definitions alone; `Answers` is what one more request comes to, in
the same terms; `Keeps` is that nothing which can be found is lost. All three
follow from soundness, which every request keeps, so they hold after any
requests.
-/

namespace EntityBase.Registry

/-- A schema to register, and whether it may take over a known uri. -/
structure Request where
  schema : Schema
  shadowing : Bool

/-- The registry after a request, refused or not. -/
def after (r : Registry) (q : Request) : Registry :=
  (registerInPlace q.schema q.shadowing).after r

/-- The registry after requests, one after another. -/
def afterAll (r : Registry) (requests : List Request) : Registry := requests.foldl after r

variable {r r' : Registry} {s : Schema} {shadowing : Bool} {outcome : Registration}
  {d : Definition}

theorem after_of_ok (h : r.register s shadowing = .ok (r', outcome)) :
    r.after ⟨s, shadowing⟩ = r' :=
  Update.after_of_ok h

/-- A refused request leaves the registry as it is. -/
theorem after_of_error {e : StoreError} (h : r.register s shadowing = .error e) :
    r.after ⟨s, shadowing⟩ = r :=
  (allOrNothing_registerInPlace s shadowing).after_of_error h

theorem afterAll_append (r : Registry) (earlier later : List Request) :
    r.afterAll (earlier ++ later) = (r.afterAll earlier).afterAll later := by
  rw [afterAll, List.foldl_append]
  rfl

/-- **From one request to a history.** -/
theorem afterAll_induction {P : Registry → Prop} {requests : List Request} (hr : P r)
    (hstep : ∀ r r' outcome, ∀ q ∈ requests, P r →
      r.register q.schema q.shadowing = .ok (r', outcome) → P r') :
    P (r.afterAll requests) := by
  induction requests generalizing r with
  | nil => exact hr
  | cons q rest ih =>
    have hnext : P (r.after q) := by
      cases h : r.register q.schema q.shadowing with
      | error e =>
        rw [after_of_error h]
        exact hr
      | ok p =>
        obtain ⟨r', outcome⟩ := p
        rw [after_of_ok h]
        exact hstep r r' outcome q (List.mem_cons_self ..) hr h
    exact ih hnext fun r r' outcome q hq => hstep r r' outcome q (List.mem_cons_of_mem _ hq)

theorem Sound.afterAll (hr : r.Sound) (requests : List Request) :
    (r.afterAll requests).Sound :=
  afterAll_induction hr fun _ _ _ _ _ hr h => hr.register h

theorem sound_afterAll (requests : List Request) : (empty.afterAll requests).Sound :=
  sound_empty.afterAll requests

/-- Where no request may take over a uri, no uri is borne twice. -/
theorem distinctUris_afterAll {requests : List Request}
    (h : ∀ q ∈ requests, q.shadowing = false) : (empty.afterAll requests).DistinctUris := by
  have hboth : (empty.afterAll requests).Sound ∧ (empty.afterAll requests).DistinctUris := by
    refine afterAll_induction (P := fun r => r.Sound ∧ r.DistinctUris) ⟨sound_empty, ?_⟩ ?_
    · intro n m d e hn
      rw [byId?_empty] at hn
      cases hn
    · rintro r r' outcome q hq ⟨hsound, hdistinct⟩ hregister
      rw [h q hq] at hregister
      exact ⟨hsound.register hregister, hdistinct.register hsound hregister⟩
  exact hboth.2

/-! ## What look-ups find -/

/-- **The look-ups of a registry, said by the list of its definitions.** Ids count from
one in the order of the list and hashes are distinct, so an id or a hash belongs to one
definition at most; the hash is that of the content; a uri finds the definition with the
greatest id of those that bear it. -/
structure Indexed (r : Registry) : Prop where
  ids : r.toList.map (·.id) = List.range' 1 r.size
  hashes : (r.toList.map (·.hash)).Nodup
  content : ∀ d ∈ r.toList, d.hash = d.schema.contentHash
  byId : ∀ n d, r.byId? n = some d ↔ d ∈ r.toList ∧ d.id = n
  byHash : ∀ h d, r.byHash? h = some d ↔ d ∈ r.toList ∧ d.hash = h
  byUri : ∀ u d, r.byUri? u = some d ↔
    d ∈ r.toList ∧ d.uri = u ∧ ∀ e ∈ r.toList, e.uri = u → e.id ≤ d.id
  byUri_none : ∀ u, r.byUri? u = none ↔ ∀ d ∈ r.toList, d.uri ≠ u
  capped : r.size ≤ maxDefId

/-- A definition of a sound registry is found by its own id. -/
theorem Sound.byId?_id (hr : r.Sound) (hd : d ∈ r.toList) : r.byId? d.id = some d := by
  obtain ⟨n, hn⟩ := mem_toList_iff.1 hd
  rw [hr.id_eq n d hn]
  exact hn

theorem Sound.byId?_eq_some_iff (hr : r.Sound) (n : DefId) :
    r.byId? n = some d ↔ d ∈ r.toList ∧ d.id = n := by
  constructor
  · intro h
    exact ⟨mem_toList_iff.2 ⟨n, h⟩, hr.id_eq n d h⟩
  · rintro ⟨hd, rfl⟩
    exact hr.byId?_id hd

/-- Two definitions of a sound registry with one hash are one. -/
theorem Sound.eq_of_hash_eq (hr : r.Sound) {e : Definition} (hd : d ∈ r.toList)
    (he : e ∈ r.toList) (h : d.hash = e.hash) : d = e := by
  have hfound := (hr.byHash_iff d.hash d.id).2 ⟨d, hr.byId?_id hd, rfl⟩
  have hsame := (hr.byHash_iff d.hash e.id).2 ⟨e, hr.byId?_id he, h.symm⟩
  have hid : d.id = e.id := Option.some.inj (hfound.symm.trans hsame)
  have hat := hr.byId?_id hd
  rw [hid, hr.byId?_id he] at hat
  exact (Option.some.inj hat).symm

theorem Sound.ids_eq (hr : r.Sound) : r.toList.map (·.id) = List.range' 1 r.size := by
  refine List.ext_getElem (by simp [toList, size]) fun i hi _ => ?_
  have hlt : i < r.toList.length := by simpa using hi
  have hfound : r.byId? (i + 1) = some r.toList[i] := by
    rw [byId?_eq_toList, if_neg (Nat.succ_ne_zero i)]
    exact List.getElem?_eq_getElem hlt
  rw [List.getElem_map, List.getElem_range', hr.id_eq _ _ hfound, Nat.one_mul, Nat.add_comm]

theorem Sound.nodup_hashes (hr : r.Sound) : (r.toList.map (·.hash)).Nodup := by
  have hids : (r.toList.map (·.id)).Nodup := by
    rw [hr.ids_eq]
    exact List.nodup_range'
  have hlist : r.toList.Nodup := List.Nodup.of_map _ hids
  exact (List.nodup_map_iff_inj_on hlist).2 fun d hd e he h => hr.eq_of_hash_eq hd he h

/-- **A uri finds the newest definition that bears it.** -/
theorem Sound.byUri?_eq_some_iff (hr : r.Sound) (u : String) :
    r.byUri? u = some d ↔
      d ∈ r.toList ∧ d.uri = u ∧ ∀ e ∈ r.toList, e.uri = u → e.id ≤ d.id := by
  constructor
  · intro h
    obtain ⟨n, hn, hd⟩ := Option.bind_eq_some_iff.1 h
    obtain ⟨e, he, huri, hmax⟩ := (hr.byUri_iff u n).1 hn
    obtain rfl := Option.some.inj (hd.symm.trans he)
    refine ⟨mem_toList_iff.2 ⟨n, hd⟩, huri, fun e hlisted hbears => ?_⟩
    rw [hr.id_eq n d hd]
    exact hmax e.id e (hr.byId?_id hlisted) hbears
  · rintro ⟨hd, rfl, hmax⟩
    have hnewest : r.byUri[d.uri]? = some d.id := by
      refine (hr.byUri_iff d.uri d.id).2 ⟨d, hr.byId?_id hd, rfl, fun m e hm hbears => ?_⟩
      have hle := hmax e (mem_toList_iff.2 ⟨m, hm⟩) hbears
      rw [hr.id_eq m e hm] at hle
      exact hle
    unfold byUri?
    rw [hnewest]
    exact hr.byId?_id hd

theorem Sound.byUri?_eq_none_iff (hr : r.Sound) (u : String) :
    r.byUri? u = none ↔ ∀ d ∈ r.toList, d.uri ≠ u := by
  rw [← Option.not_isSome_iff_eq_none, hr.isSome_byUri?_iff]
  constructor
  · rintro hnone d hd rfl
    exact hnone (hr.byUri_ne_none (hr.byId?_id hd))
  · intro hnone hknown
    obtain ⟨n, hn⟩ := Option.ne_none_iff_exists'.1 hknown
    obtain ⟨d, hd, huri, -⟩ := (hr.byUri_iff u n).1 hn
    exact hnone d (mem_toList_iff.2 ⟨n, hd⟩) huri

theorem Sound.indexed (hr : r.Sound) : r.Indexed where
  ids := hr.ids_eq
  hashes := hr.nodup_hashes
  content d hd := by
    obtain ⟨n, hn⟩ := mem_toList_iff.1 hd
    exact hr.hash_eq n d hn
  byId n _ := hr.byId?_eq_some_iff n
  byHash h d := by
    rw [hr.byHash?_eq_some_iff, mem_toList_iff]
  byUri u _ := hr.byUri?_eq_some_iff u
  byUri_none u := hr.byUri?_eq_none_iff u
  capped := hr.size_le

/-! ## What a request comes to -/

/-- **What registering a schema comes to.** Known content gives the id that it has and
changes nothing; new content takes the next id and stands at the end of the list, unless
its uri is taken and may not be taken over, or the ids have run out. A refusal changes
nothing. -/
structure Answers (r : Registry) (s : Schema) (shadowing : Bool) : Prop where
  known : ∀ d, r.byHash? s.contentHash = some d →
    r.register s shadowing = .ok (r, .existing d.id)
  new : r.byHash? s.contentHash = none → (r.byUri? s.uri = none ∨ shadowing = true) →
    r.size < maxDefId → ∃ r' outcome, r.register s shadowing = .ok (r', outcome) ∧
      outcome.id = r.size + 1 ∧ r'.toList = r.toList ++ [s.define (r.size + 1)]
  taken : ∀ d, r.byHash? s.contentHash = none → r.byUri? s.uri = some d → shadowing = false →
    r.register s shadowing = .error (.schemaConflict s.uri d.id)
  full : r.byHash? s.contentHash = none → (r.byUri? s.uri = none ∨ shadowing = true) →
    r.size = maxDefId → r.register s shadowing = .error (.idsExhausted .definition)
  refused : ∀ e r', (registerInPlace s shadowing).run r = .error e r' → r' = r

/-- What the index by uri holds is the id of the definition that the uri finds. -/
theorem Sound.byUri_eq (hr : r.Sound) (u : String) : r.byUri[u]? = (r.byUri? u).map (·.id) := by
  cases hindex : r.byUri[u]? with
  | none =>
    have hnone : r.byUri? u = none := by
      unfold byUri?
      rw [hindex]
      rfl
    rw [hnone]
    rfl
  | some n =>
    obtain ⟨d, hd, -⟩ := (hr.byUri_iff u n).1 hindex
    have hfound : r.byUri? u = some d := by
      unfold byUri?
      rw [hindex]
      exact hd
    rw [hfound, Option.map_some, hr.id_eq n d hd]

theorem toList_push (r : Registry) (d : Definition) : (r.push d).toList = r.toList ++ [d] := by
  simp [toList, push]

/-- Registering new content, in terms of what its uri finds. -/
theorem Sound.register_of_new (hr : r.Sound) (hnew : r.byHash? s.contentHash = none) :
    r.register s shadowing =
      match r.byUri? s.uri with
      | none =>
        if maxDefId < r.size + 1 then .error (.idsExhausted .definition)
        else .ok (r.push (s.define (r.size + 1)), .created (r.size + 1))
      | some d =>
        if shadowing = true then
          if maxDefId < r.size + 1 then .error (.idsExhausted .definition)
          else .ok (r.push (s.define (r.size + 1)), .shadowed (r.size + 1) d.id)
        else .error (.schemaConflict s.uri d.id) := by
  have hindex := hr.byHash?_eq_none_iff.1 hnew
  rw [register_eq, verdict, hindex, hr.byUri_eq]
  cases r.byUri? s.uri with
  | none => by_cases hfull : maxDefId < r.size + 1 <;> simp [hfull, Except.map, enter]
  | some d =>
    by_cases hfull : maxDefId < r.size + 1 <;> cases shadowing <;>
      simp [hfull, Except.map, enter]

theorem Sound.answers (hr : r.Sound) (s : Schema) (shadowing : Bool) : r.Answers s shadowing where
  known d h := by
    obtain ⟨⟨n, hn⟩, hhash⟩ := hr.byHash?_eq_some_iff.1 h
    have hindex : r.byHash[s.contentHash]? = some n :=
      (hr.byHash_iff _ n).2 ⟨d, hn, hhash⟩
    rw [register_eq, verdict, hindex, hr.id_eq n d hn]
    rfl
  new hnew huri hroom := by
    have hsize : ¬ maxDefId < r.size + 1 := Nat.not_lt.2 hroom
    have hlist := r.toList_push (s.define (r.size + 1))
    rw [hr.register_of_new hnew]
    cases hknown : r.byUri? s.uri with
    | none => exact ⟨_, .created (r.size + 1), if_neg hsize, rfl, hlist⟩
    | some previous =>
      have hallowed : shadowing = true := huri.resolve_left (by simp [hknown])
      dsimp only
      rw [if_pos hallowed, if_neg hsize]
      exact ⟨_, .shadowed (r.size + 1) previous.id, rfl, rfl, hlist⟩
  taken d hnew hknown hnot := by
    rw [hr.register_of_new hnew, hknown, hnot]
    rfl
  full hnew huri hsize := by
    have hfull : maxDefId < r.size + 1 := Nat.lt_succ_of_le (Nat.le_of_eq hsize.symm)
    rw [hr.register_of_new hnew]
    cases hknown : r.byUri? s.uri with
    | none => exact if_pos hfull
    | some previous =>
      have hallowed : shadowing = true := huri.resolve_left (by simp [hknown])
      dsimp only
      rw [if_pos hallowed, if_pos hfull]
  refused e r' h := allOrNothing_registerInPlace s shadowing r e r' h

/-! ## What stays -/

/-- Whether what an id or a hash finds in a registry it finds in another one, with the
same content. -/
structure Keeps (r r' : Registry) : Prop where
  byId : ∀ n d, r.byId? n = some d → r'.byId? n = some d
  byHash : ∀ h d, r.byHash? h = some d → r'.byHash? h = some d

theorem Keeps.of_byId (hr : r.Sound) (hr' : r'.Sound)
    (h : ∀ n d, r.byId? n = some d → r'.byId? n = some d) : r.Keeps r' where
  byId := h
  byHash hash d hd := by
    obtain ⟨⟨n, hn⟩, hhash⟩ := hr.byHash?_eq_some_iff.1 hd
    exact hr'.byHash?_eq_some_iff.2 ⟨⟨n, h n d hn⟩, hhash⟩

/-- **What is registered stays**, whatever is asked for later. -/
theorem Sound.keeps_afterAll (hr : r.Sound) (later : List Request) :
    r.Keeps (r.afterAll later) := by
  refine .of_byId hr (hr.afterAll later) fun n d hd => ?_
  exact afterAll_induction (P := fun r => r.byId? n = some d) hd
    fun _ _ _ _ _ hd h => byId?_register h hd

end EntityBase.Registry
