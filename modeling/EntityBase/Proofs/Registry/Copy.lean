import EntityBase.Proofs.Registry

/-!
# Copies of a registry — registering everything again

Registering the definitions of a sound registry in the order of their ids,
from nothing, gives each of them its id again: their contents are distinct,
so none is taken for known, and where uris may not be taken over, they are
distinct too. What is not registered with a definition is its display name.
A copy finds under every identifier what its original finds (`Copied.find?_eq`).
-/

namespace EntityBase

/-- The definition without its display name. -/
def Definition.unnamed (d : Definition) : Definition := { d with name := none }

namespace Registry

variable {r copy : Registry} {d : Definition} {shadowing : Bool}

theorem byId?_eq_toList (r : Registry) (n : Nat) :
    r.byId? n = if n = 0 then none else r.toList[n - 1]? := by
  unfold byId? toList
  rw [Array.getElem?_toList]

/-- Whether the copy holds the listed definitions, without their names. -/
structure Copied (definitions : List Definition) (copy : Registry) : Prop where
  sound : copy.Sound
  toList_eq : copy.toList = definitions.map Definition.unnamed

theorem copied_empty : Copied [] empty := ⟨sound_empty, rfl⟩

variable {done rest : List Definition}

/-- The definitions of a copy are those of its original, under the same ids. -/
theorem Copied.byId?_eq (hcopy : Copied done copy) (n : Nat) :
    copy.byId? n = (if n = 0 then none else done[n - 1]?).map Definition.unnamed := by
  rw [byId?_eq_toList, hcopy.toList_eq, List.getElem?_map]
  split <;> rfl

/-- What a copy of the first definitions holds, the original holds. -/
theorem Copied.original (hcopy : Copied done copy) (hall : r.toList = done ++ rest) {n : Nat}
    {e : Definition} (he : copy.byId? n = some e) :
    ∃ d, r.byId? n = some d ∧ e = d.unnamed ∧ n ≤ done.length := by
  rw [hcopy.byId?_eq] at he
  obtain ⟨d, hd, rfl⟩ := Option.map_eq_some_iff.1 he
  split at hd
  · cases hd
  · rename_i hn
    have hlt : n - 1 < done.length := by
      obtain ⟨h, -⟩ := List.getElem?_eq_some_iff.1 hd
      exact h
    refine ⟨d, ?_, rfl, by omega⟩
    rw [byId?_eq_toList, if_neg hn, hall, List.getElem?_append_left hlt, hd]

/-- New content under a uri that may be used is appended under the next id. -/
theorem register_new {s : Schema} (hnew : r.byHash[s.contentHash]? = none)
    (huri : shadowing = false → r.byUri[s.uri]? = none) (hsize : r.size + 1 ≤ maxDefId) :
    ∃ outcome, r.register s shadowing = .ok (r.push (s.define (r.size + 1)), outcome) := by
  have hroom : ¬ maxDefId < r.size + 1 := Nat.not_lt.2 hsize
  rw [register_eq, verdict]
  cases hknown : r.byUri[s.uri]? with
  | none =>
    simp only [hnew, if_neg hroom]
    exact ⟨_, rfl⟩
  | some previous =>
    cases shadowing with
    | false =>
      rw [huri rfl] at hknown
      cases hknown
    | true =>
      simp only [hnew, if_neg hroom, if_true]
      exact ⟨_, rfl⟩

/-- **One more definition.** A copy of the first definitions takes the next one
and gives it the id that it has. -/
theorem Copied.register (hr : r.Sound) (hdistinct : shadowing = false → r.DistinctUris)
    (hall : r.toList = done ++ d :: rest) (hcopy : Copied done copy) :
    ∃ copy' outcome, copy.register d.unnamed.schema shadowing = .ok (copy', outcome) ∧
      Copied (done ++ [d]) copy' := by
  have hd : r.byId? (done.length + 1) = some d := by
    rw [byId?_eq_toList, if_neg (Nat.succ_ne_zero _), hall]
    simp
  have hid := hr.id_eq _ d hd
  have hhash := hr.hash_eq _ d hd
  have hsize : copy.size = done.length := by
    have := congrArg List.length hcopy.toList_eq
    simpa [toList, size] using this
  have hnew : copy.byHash[d.unnamed.schema.contentHash]? = none := by
    cases hfound : copy.byHash[d.unnamed.schema.contentHash]? with
    | none => rfl
    | some n =>
      obtain ⟨e, he, heHash⟩ := (hcopy.sound.byHash_iff _ n).1 hfound
      obtain ⟨e, hOriginal, rfl, hle⟩ := hcopy.original hall he
      -- the original would have the content twice
      have hfirst := (hr.byHash_iff d.hash n).2 ⟨e, hOriginal, by rw [hhash]; exact heHash⟩
      rw [(hr.byHash_iff d.hash (done.length + 1)).2 ⟨d, hd, rfl⟩] at hfirst
      have := Option.some.inj hfirst
      omega
  -- the original would have the uri twice
  have huri : shadowing = false → copy.byUri[d.unnamed.schema.uri]? = none := by
    intro hshadowing
    cases hfound : copy.byUri[d.unnamed.schema.uri]? with
    | none => rfl
    | some n =>
      obtain ⟨e, he, heUri, -⟩ := (hcopy.sound.byUri_iff _ n).1 hfound
      obtain ⟨e, hOriginal, rfl, hle⟩ := hcopy.original hall he
      have := hdistinct hshadowing n _ e d hOriginal hd heUri
      omega
  have hroom : copy.size + 1 ≤ maxDefId := by
    have := (byId?_isSome_iff (r := r)).1 (Option.isSome_iff_exists.2 ⟨d, hd⟩)
    rw [hsize]
    exact Nat.le_trans this.2 hr.size_le
  obtain ⟨outcome, hregister⟩ := register_new hnew huri hroom
  refine ⟨_, outcome, hregister, hcopy.sound.register hregister, ?_⟩
  -- the next id is that of the definition, and a hash is made of what is copied
  have hdefine : d.unnamed.schema.define (copy.size + 1) = d.unnamed := by
    have hparts : d.unnamed.schema.define (copy.size + 1)
        = { d.unnamed with id := copy.size + 1, hash := d.schema.contentHash } := rfl
    rw [hparts, hsize, ← hid, ← hhash]
    rfl
  have hpush : (copy.push (d.unnamed.schema.define (copy.size + 1))).toList
      = copy.toList ++ [d.unnamed] := by
    rw [hdefine]
    simp [toList, push]
  rw [hpush, hcopy.toList_eq, List.map_append]
  rfl

/-- **A copy finds what its original finds**, without its display name. -/
theorem Copied.find?_eq (hr : r.Sound) (hcopy : Copied r.toList copy) (ident : DefIdent) :
    copy.find? ident = (r.find? ident).map Definition.unnamed := by
  have hbyId : ∀ n : Nat, copy.byId? n = (r.byId? n).map Definition.unnamed := by
    intro n
    rw [hcopy.byId?_eq, byId?_eq_toList]
  -- the indexes are settled by what the ids find, names aside
  have hbyId_iff : ∀ (n : Nat) (P : Definition → Prop), (∀ d : Definition, P d.unnamed ↔ P d) →
      ((∃ d, copy.byId? n = some d ∧ P d) ↔ ∃ d, r.byId? n = some d ∧ P d) := by
    intro n P hP
    rw [hbyId]
    cases r.byId? n <;> simp [hP]
  have hbyHash : ∀ h : String, copy.byHash[h]? = r.byHash[h]? := by
    intro h
    refine Option.ext fun n => ?_
    rw [hcopy.sound.byHash_iff, hr.byHash_iff]
    exact hbyId_iff n (fun d => d.hash = h) fun d => Iff.rfl
  have hbyUri : ∀ u : String, copy.byUri[u]? = r.byUri[u]? := by
    intro u
    refine Option.ext fun n => ?_
    rw [hcopy.sound.byUri_iff, hr.byUri_iff]
    have hmax : (∀ (m : Nat) e, copy.byId? m = some e → e.uri = u → m ≤ n) ↔
        ∀ (m : Nat) e, r.byId? m = some e → e.uri = u → m ≤ n := by
      refine forall_congr' fun m => ?_
      rw [hbyId]
      cases r.byId? m with
      | none => simp
      | some e => simp [Definition.unnamed]
    rw [hmax]
    exact hbyId_iff n _ fun d => Iff.rfl
  cases ident with
  | id n => exact hbyId n
  | uri u =>
    change copy.byUri[u]?.bind copy.byId? = (r.byUri[u]?.bind r.byId?).map Definition.unnamed
    rw [hbyUri]
    cases r.byUri[u]? with
    | none => rfl
    | some n => exact hbyId n
  | hash h =>
    change copy.byHash[h]?.bind copy.byId? = (r.byHash[h]?.bind r.byId?).map Definition.unnamed
    rw [hbyHash]
    cases r.byHash[h]? with
    | none => rfl
    | some n => exact hbyId n

end Registry

end EntityBase
