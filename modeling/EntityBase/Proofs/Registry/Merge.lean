import EntityBase.Proofs.Registry.Copy

/-!
# Merging registries — registering definitions into one that has some

Where uris may be taken over, registering the definitions of one registry in
another one keeps what is there under its ids, takes a definition whose hash is
there for known, and appends the others. `Merged` says what holds of the
registry in between; the definitions that are missing bound the ids that are
still needed (`Merged.register`).
-/

namespace EntityBase.Registry

variable {base r : Registry} {d : Definition} {done rest : List Definition}

/-- The listed definitions that a registry has no definition of the same hash for. -/
def missing (r : Registry) (definitions : List Definition) : List Definition :=
  definitions.filter fun d => (r.byHash? d.hash).isNone

/-- A registry in which some definitions were registered, starting from a base. -/
structure Merged (base : Registry) (done : List Definition) (r : Registry) : Prop where
  sound : r.Sound
  kept : ∀ n d, base.byId? n = some d → r.byId? n = some d
  known : ∀ d ∈ done, (r.byHash? d.hash).isSome
  origin : ∀ n e, r.byId? n = some e → base.byId? n = some e ∨
    ∃ d ∈ done, e.hash = d.hash ∧ e.properties = d.properties
  unchanged : (∀ d ∈ done, (base.byHash? d.hash).isSome) → r = base

theorem merged_nil (hbase : base.Sound) : Merged base [] base :=
  ⟨hbase, fun _ _ h => h, nofun, fun _ _ h => .inl h, fun _ => rfl⟩

/-- What has a hash keeps it when more is registered. -/
theorem isSome_byHash?_register {r' : Registry} {s : Schema} {shadowing : Bool}
    {outcome : Registration} (hr : r.Sound) (h : r.register s shadowing = .ok (r', outcome))
    {hash : String} (hknown : (r.byHash? hash).isSome) : (r'.byHash? hash).isSome := by
  obtain ⟨e, he⟩ := Option.isSome_iff_exists.1 hknown
  obtain ⟨⟨n, hn⟩, hhash⟩ := hr.byHash?_eq_some_iff.1 he
  rw [(hr.register h).byHash?_eq_some_iff.2 ⟨⟨n, byId?_register h hn⟩, hhash⟩]
  rfl

/-- Registering makes no more definitions missing. -/
theorem length_missing_le {r' : Registry} {definitions : List Definition}
    (h : ∀ hash, (r.byHash? hash).isSome → (r'.byHash? hash).isSome) :
    (r'.missing definitions).length ≤ (r.missing definitions).length := by
  unfold missing
  rw [← List.countP_eq_length_filter, ← List.countP_eq_length_filter]
  refine List.countP_mono_left fun d _ hd => ?_
  -- what is missing afterwards was missing before
  rw [Option.isNone_iff_eq_none] at hd ⊢
  refine Option.not_isSome_iff_eq_none.1 fun hknown => ?_
  have hkept := h d.hash hknown
  rw [hd] at hkept
  cases hkept

/-- Content that is known is not entered again. -/
theorem register_known {s : Schema} {n : DefId} {shadowing : Bool}
    (h : r.byHash[s.contentHash]? = some n) :
    r.register s shadowing = .ok (r, .existing n) := by
  rw [register_eq, verdict, h]
  rfl

/-- A definition whose content is there changes nothing. -/
theorem Merged.known_again (h : Merged base done r) (hknown : (r.byHash? d.hash).isSome) :
    Merged base (done ++ [d]) r := by
  refine ⟨h.sound, h.kept, ?_, fun n e he => ?_, fun hall => ?_⟩
  · simpa [or_imp, forall_and] using ⟨h.known, hknown⟩
  · obtain hbase | ⟨d', hd', hsame⟩ := h.origin n e he
    · exact .inl hbase
    · exact .inr ⟨d', List.mem_append_left _ hd', hsame⟩
  · exact h.unchanged fun e he => hall e (List.mem_append_left _ he)

/-- A definition whose content is missing is found by its hash once it is appended. -/
theorem Merged.appended (h : Merged base done r) (hcontent : d.unnamed.schema.contentHash = d.hash)
    (hnone : r.byHash? d.hash = none) {outcome : Registration}
    (hregister : r.register d.unnamed.schema true
      = .ok (r.push (d.unnamed.schema.define (r.size + 1)), outcome)) :
    Merged base (done ++ [d]) (r.push (d.unnamed.schema.define (r.size + 1))) := by
  have hsound := h.sound.register hregister
  have hlast : (r.push (d.unnamed.schema.define (r.size + 1))).byId? (r.size + 1)
      = some (d.unnamed.schema.define (r.size + 1)) := by
    rw [byId?_push, if_pos rfl]
  refine ⟨hsound, fun n e he => byId?_register hregister (h.kept n e he), ?_, fun n e he => ?_,
    fun hall => ?_⟩
  · have hfresh : ((r.push (d.unnamed.schema.define (r.size + 1))).byHash? d.hash).isSome := by
      rw [hsound.byHash?_eq_some_iff.2 ⟨⟨_, hlast⟩, hcontent⟩]
      rfl
    have hkept := fun e he => isSome_byHash?_register h.sound hregister (h.known e he)
    simpa [or_imp, forall_and] using ⟨hkept, hfresh⟩
  · rcases byId?_push_eq_some_iff.1 he with ⟨-, rfl⟩ | he
    · exact .inr ⟨d, by simp, hcontent, rfl⟩
    · obtain hbase | ⟨d', hd', hsame⟩ := h.origin n e he
      · exact .inl hbase
      · exact .inr ⟨d', List.mem_append_left _ hd', hsame⟩
  · -- what the base knows would have been there
    have hbase := hall d (by simp)
    rw [← h.unchanged fun e he => hall e (List.mem_append_left _ he), hnone] at hbase
    cases hbase

/-- **One more definition.** It is taken in as long as there is an id for every
definition that is missing, and then there is one for each of the rest. -/
theorem Merged.register (h : Merged base done r) (hhash : d.hash = d.schema.contentHash)
    (hroom : r.size + (r.missing (d :: rest)).length ≤ maxDefId) :
    ∃ r' outcome, r.register d.unnamed.schema true = .ok (r', outcome) ∧
      Merged base (done ++ [d]) r' ∧ r'.size + (r'.missing rest).length ≤ maxDefId := by
  have hcontent : d.unnamed.schema.contentHash = d.hash := hhash.symm
  cases hfound : r.byHash[d.hash]? with
  | some n =>
    have hregister : r.register d.unnamed.schema true = .ok (r, .existing n) :=
      register_known (by rw [hcontent, hfound])
    have hknown : (r.byHash? d.hash).isSome := by
      refine Option.isSome_iff_ne_none.2 fun hnone => ?_
      rw [h.sound.byHash?_eq_none_iff, hfound] at hnone
      cases hnone
    have hmissing : r.missing (d :: rest) = r.missing rest :=
      List.filter_cons_of_neg (by simpa [← Option.isSome_iff_ne_none] using hknown)
    rw [hmissing] at hroom
    exact ⟨r, _, hregister, h.known_again hknown, hroom⟩
  | none =>
    -- it takes the id of one that is missing
    have hnone : r.byHash? d.hash = none := h.sound.byHash?_eq_none_iff.2 hfound
    have hmissing : r.missing (d :: rest) = d :: r.missing rest :=
      List.filter_cons_of_pos (by rw [hnone]; rfl)
    rw [hmissing, List.length_cons] at hroom
    obtain ⟨outcome, hregister⟩ : ∃ outcome, r.register d.unnamed.schema true
        = .ok (r.push (d.unnamed.schema.define (r.size + 1)), outcome) :=
      register_new (by rw [hcontent, hfound]) (fun h => by cases h) (by omega)
    refine ⟨_, outcome, hregister, h.appended hcontent hnone hregister, ?_⟩
    have hsize : (r.push (d.unnamed.schema.define (r.size + 1))).size = r.size + 1 := by
      simp [size, push]
    have hfewer : (missing _ rest).length ≤ (r.missing rest).length :=
      length_missing_le fun hash => isSome_byHash?_register h.sound hregister
    omega

end EntityBase.Registry
