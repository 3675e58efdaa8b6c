import EntityBase.Registry

/-!
# The registry — dense ids, found again by hash and by uri

`Sound` is what every registration keeps: a definition stands at its own
id, carries the hash of its content, and is found under it; a uri resolves
to the greatest id that bears it. The two indexes are read through their
`iff` fields from here on and never opened again.

A registration only ever appends (`byId?_register`), so what was registered
stays obtainable, with the content it had.
-/

namespace EntityBase

namespace Registry

variable {r r' : Registry} {s : Schema} {shadowing : Bool} {outcome : Registration}

/-- Appends a definition and makes it the one of its uri and its hash. -/
def push (r : Registry) (d : Definition) : Registry :=
  { definitions := r.definitions.push d
    byUri := r.byUri.insert d.uri d.id
    byHash := r.byHash.insert d.hash d.id }

/-- The definitions of a longer registry are the old ones and the new one. -/
theorem byId?_push (r : Registry) (d : Definition) (n : Nat) :
    (r.push d).byId? n = if n = r.size + 1 then some d else r.byId? n := by
  unfold byId? push size
  simp only [Array.getElem?_push]
  grind

theorem byId?_isSome_iff {n : Nat} : (r.byId? n).isSome ↔ 1 ≤ n ∧ n ≤ r.size := by
  unfold byId? size
  by_cases h : n = 0
  · simp [h]
  · rw [if_neg h, isSome_getElem?]
    omega

@[simp] theorem byId?_empty (n : DefId) : empty.byId? n = none := by
  simp [empty, byId?]

theorem byId?_lt {n : Nat} {d : Definition} (h : r.byId? n = some d) : n < r.size + 1 := by
  have := (byId?_isSome_iff (r := r) (n := n)).1 (by rw [h]; rfl)
  omega

/-- A definition is listed exactly when some id finds it. -/
theorem mem_toList_iff {d : Definition} : d ∈ r.toList ↔ ∃ n, r.byId? n = some d := by
  unfold toList byId?
  rw [Array.mem_toList_iff, Array.mem_iff_getElem?]
  constructor
  · rintro ⟨i, hi⟩
    exact ⟨i + 1, by simpa using hi⟩
  · rintro ⟨n, hn⟩
    split at hn
    · cases hn
    · exact ⟨n - 1, hn⟩

/-- What a longer registry holds is the new definition or an old one. -/
theorem byId?_push_eq_some_iff {d e : Definition} {n : Nat} :
    (r.push d).byId? n = some e ↔ (n = r.size + 1 ∧ e = d) ∨ r.byId? n = some e := by
  rw [byId?_push]
  by_cases hn : n = r.size + 1
  · have hnone : r.byId? n ≠ some e := fun h => by
      have hlt := byId?_lt h
      omega
    rw [if_pos hn, Option.some.injEq]
    exact ⟨fun h => .inl ⟨hn, h.symm⟩, fun h => (h.resolve_right hnone).2.symm⟩
  · rw [if_neg hn]
    exact ⟨.inr, fun h => h.resolve_left fun hlast => hn hlast.1⟩

/-! ## What a registration can come to -/

/-- What registering a schema comes to, said before anything is written. -/
def verdict (r : Registry) (s : Schema) (shadowing : Bool) : Except StoreError Registration :=
  match r.byHash[s.contentHash]? with
  | some id => .ok (.existing id)
  | none =>
    let id := r.size + 1
    match r.byUri[s.uri]? with
    | some previous =>
      if shadowing then
        if maxDefId < id then .error (.idsExhausted .definition) else .ok (.shadowed id previous)
      else .error (.schemaConflict s.uri previous)
    | none => if maxDefId < id then .error (.idsExhausted .definition) else .ok (.created id)

/-- The registry after a verdict: content that is known already is not entered again. -/
def enter (r : Registry) (s : Schema) : Registration → Registry
  | .existing _ => r
  | .created id | .shadowed id _ => r.push (s.define id)

/-- **Registering in place**, as a whole: a schema that is refused is refused before
anything is written, and else all three parts of the registry are. -/
theorem registerInPlace_eq (r : Registry) (s : Schema) (shadowing : Bool) :
    (registerInPlace s shadowing).run r =
      match r.verdict s shadowing with
      | .ok outcome => .ok outcome (r.enter s outcome)
      | .error e => .error e r := by
  unfold registerInPlace verdict
  simp only [EStateM.run_bind, EStateM.run_get]
  cases hhash : r.byHash[s.contentHash]? with
  | some id => rfl
  | none =>
    cases huri : r.byUri[s.uri]? with
    | none =>
      by_cases hfull : maxDefId < r.size + 1
      · simp [hfull]
      · simp [hfull, enter, push, Schema.define]
    | some previous =>
      by_cases hfull : maxDefId < r.size + 1 <;> cases shadowing <;>
        simp [hfull, enter, push, Schema.define]

/-- **A schema that is refused leaves no trace.** -/
theorem allOrNothing_registerInPlace (s : Schema) (shadowing : Bool) :
    (registerInPlace s shadowing).AllOrNothing := by
  intro r e r' h
  rw [registerInPlace_eq] at h
  cases hverdict : r.verdict s shadowing with
  | ok outcome =>
    rw [hverdict] at h
    cases h
  | error e =>
    rw [hverdict] at h
    cases h
    rfl

theorem register_eq (r : Registry) (s : Schema) (shadowing : Bool) :
    r.register s shadowing
      = (r.verdict s shadowing).map fun outcome => (r.enter s outcome, outcome) := by
  unfold register Update.result
  rw [registerInPlace_eq]
  cases r.verdict s shadowing <;> rfl

/-- **Every successful registration**: the content was known and nothing
changes, or it was not and a definition is appended under the next id. -/
theorem register_cases (h : r.register s shadowing = .ok (r', outcome)) :
    (r' = r ∧ ∃ n, r.byHash[s.contentHash]? = some n) ∨
    (r' = r.push (s.define (r.size + 1)) ∧ r.byHash[s.contentHash]? = none ∧
      r.size + 1 ≤ maxDefId ∧ (r.byUri[s.uri]? = none ∨ shadowing = true)) := by
  rw [register_eq, verdict] at h
  cases hhash : r.byHash[s.contentHash]? with
  | some n =>
    left
    simp only [hhash, Except.map, Except.ok.injEq, Prod.mk.injEq] at h
    exact ⟨h.1.symm, n, rfl⟩
  | none =>
    right
    cases huri : r.byUri[s.uri]? with
    | none =>
      simp only [hhash, huri] at h
      split at h
      · cases h
      · rename_i hle
        simp only [Except.map, Except.ok.injEq, Prod.mk.injEq] at h
        exact ⟨h.1.symm, rfl, Nat.le_of_not_lt hle, Or.inl rfl⟩
    | some previous =>
      simp only [hhash, huri] at h
      split at h
      · rename_i hs
        split at h
        · cases h
        · rename_i hle
          simp only [Except.map, Except.ok.injEq, Prod.mk.injEq] at h
          exact ⟨h.1.symm, rfl, Nat.le_of_not_lt hle, Or.inr hs⟩
      · cases h

/-- **What is registered stays so**, under the same id. -/
theorem byId?_register (h : r.register s shadowing = .ok (r', outcome)) {n : Nat}
    {d : Definition} (hd : r.byId? n = some d) : r'.byId? n = some d := by
  rcases register_cases h with ⟨rfl, -⟩ | ⟨rfl, -⟩
  · exact hd
  · exact byId?_push_eq_some_iff.2 (.inr hd)

/-! ## Soundness -/

/-- The registry and its indexes agree. -/
structure Sound (r : Registry) : Prop where
  id_eq : ∀ (n : Nat) d, r.byId? n = some d → d.id = n
  hash_eq : ∀ (n : Nat) d, r.byId? n = some d → d.hash = d.schema.contentHash
  byHash_iff : ∀ h (n : Nat), r.byHash[h]? = some n ↔ ∃ d, r.byId? n = some d ∧ d.hash = h
  byUri_iff : ∀ u (n : Nat), r.byUri[u]? = some n ↔
    ∃ d, r.byId? n = some d ∧ d.uri = u ∧ ∀ (m : Nat) e, r.byId? m = some e → e.uri = u → m ≤ n
  size_le : r.size ≤ maxDefId

theorem sound_empty : empty.Sound := by
  refine ⟨?_, ?_, ?_, ?_, Nat.zero_le _⟩
  · intro n d h
    rw [byId?_empty] at h
    cases h
  · intro n d h
    rw [byId?_empty] at h
    cases h
  · intro h n
    simp only [byId?_empty, reduceCtorEq, false_and, exists_false, iff_false]
    simp [empty]
  · intro u n
    simp only [byId?_empty, reduceCtorEq, false_and, exists_false, iff_false]
    simp [empty]

/-! ### Appending -/

theorem getElem?_byHash_push (r : Registry) (d : Definition) (h : String) :
    (r.push d).byHash[h]? = if d.hash = h then some d.id else r.byHash[h]? := by
  have hget : (r.push d).byHash[h]?
      = if compare d.hash h = .eq then some d.id else r.byHash[h]? :=
    Std.TreeMap.getElem?_insert
  rw [hget]
  simp only [Std.compare_eq_iff_eq]

theorem getElem?_byUri_push (r : Registry) (d : Definition) (u : String) :
    (r.push d).byUri[u]? = if d.uri = u then some d.id else r.byUri[u]? := by
  have hget : (r.push d).byUri[u]?
      = if compare d.uri u = .eq then some d.id else r.byUri[u]? :=
    Std.TreeMap.getElem?_insert
  rw [hget]
  simp only [Std.compare_eq_iff_eq]

/-- The index by hash goes on finding what bears a hash, as long as the new hash was not
known. -/
theorem Sound.byHash_push (hr : r.Sound) (hnew : r.byHash[s.contentHash]? = none) (h : String)
    (n : Nat) : (r.push (s.define (r.size + 1))).byHash[h]? = some n ↔
      ∃ d, (r.push (s.define (r.size + 1))).byId? n = some d ∧ d.hash = h := by
  simp only [getElem?_byHash_push, byId?_push_eq_some_iff]
  have hhash : (s.define (r.size + 1)).hash = s.contentHash := rfl
  by_cases heq : s.contentHash = h
  · subst heq
    rw [if_pos hhash, Option.some.injEq]
    constructor
    · rintro rfl
      exact ⟨_, .inl ⟨rfl, rfl⟩, rfl⟩
    · rintro ⟨d, ⟨rfl, -⟩ | hd, hh⟩
      · rfl
      · -- the hash would have been known
        rw [(hr.byHash_iff _ n).2 ⟨d, hd, hh⟩] at hnew
        cases hnew
  · rw [hhash, if_neg heq, hr.byHash_iff]
    constructor
    · rintro ⟨d, hd, hh⟩
      exact ⟨d, .inr hd, hh⟩
    · rintro ⟨d, ⟨-, rfl⟩ | hd, hh⟩
      · exact absurd hh heq
      · exact ⟨d, hd, hh⟩

/-- The index by uri goes on finding the newest definition that bears a uri: the new id is
past all others. -/
theorem Sound.byUri_push (hr : r.Sound) (u : String) (n : Nat) :
    (r.push (s.define (r.size + 1))).byUri[u]? = some n ↔
      ∃ d, (r.push (s.define (r.size + 1))).byId? n = some d ∧ d.uri = u ∧
        ∀ (m : Nat) e, (r.push (s.define (r.size + 1))).byId? m = some e → e.uri = u → m ≤ n := by
  simp only [getElem?_byUri_push, byId?_push_eq_some_iff]
  have huri : (s.define (r.size + 1)).uri = s.uri := rfl
  by_cases heq : s.uri = u
  · subst heq
    rw [if_pos huri, Option.some.injEq]
    constructor
    · rintro rfl
      refine ⟨_, .inl ⟨rfl, rfl⟩, rfl, ?_⟩
      rintro m e (⟨rfl, -⟩ | hm) -
      · exact Nat.le_refl _
      · exact Nat.le_of_lt (byId?_lt hm)
    · rintro ⟨d, ⟨rfl, -⟩ | hd, -, hmax⟩
      · rfl
      · have hle := hmax _ _ (.inl ⟨rfl, rfl⟩) rfl
        exact absurd (byId?_lt hd) (Nat.not_lt.2 hle)
  · rw [huri, if_neg heq, hr.byUri_iff]
    constructor
    · rintro ⟨d, hd, hu, hmax⟩
      refine ⟨d, .inr hd, hu, ?_⟩
      rintro m e (⟨-, rfl⟩ | hm) he
      · exact absurd he heq
      · exact hmax m e hm he
    · rintro ⟨d, ⟨-, rfl⟩ | hd, hu, hmax⟩
      · exact absurd hu heq
      · exact ⟨d, hd, hu, fun m e hm => hmax m e (.inr hm)⟩

/-- Appending new content under the next id keeps a registry sound. -/
theorem Sound.push (hr : r.Sound) (hnew : r.byHash[s.contentHash]? = none)
    (hsize : r.size + 1 ≤ maxDefId) : (r.push (s.define (r.size + 1))).Sound where
  id_eq n d h := by
    rcases byId?_push_eq_some_iff.1 h with ⟨rfl, rfl⟩ | h
    · rfl
    · exact hr.id_eq n d h
  hash_eq n d h := by
    rcases byId?_push_eq_some_iff.1 h with ⟨rfl, rfl⟩ | h
    · rfl
    · exact hr.hash_eq n d h
  byHash_iff := hr.byHash_push hnew
  byUri_iff := hr.byUri_push
  size_le := by
    have hlength : (r.push (s.define (r.size + 1))).size = r.size + 1 := by
      simp [size, Registry.push]
    rw [hlength]
    exact hsize

/-- **Registering keeps a registry sound.** -/
theorem Sound.register (hr : r.Sound) (h : r.register s shadowing = .ok (r', outcome)) :
    r'.Sound := by
  rcases register_cases h with ⟨rfl, -⟩ | ⟨rfl, hnew, hsize, -⟩
  · exact hr
  · exact hr.push hnew hsize

/-- **A hash finds the definition that bears it**, and only that. -/
theorem Sound.byHash?_eq_some_iff (hr : r.Sound) {hash : String} {d : Definition} :
    r.byHash? hash = some d ↔ (∃ n, r.byId? n = some d) ∧ d.hash = hash := by
  constructor
  · intro h
    obtain ⟨n, hn, hd⟩ := Option.bind_eq_some_iff.1 h
    obtain ⟨e, he, rfl⟩ := (hr.byHash_iff hash n).1 hn
    obtain rfl := Option.some.inj (hd.symm.trans he)
    exact ⟨⟨n, hd⟩, rfl⟩
  · rintro ⟨⟨n, hn⟩, rfl⟩
    have hid := (hr.byHash_iff d.hash n).2 ⟨d, hn, rfl⟩
    unfold byHash?
    rw [hid]
    exact hn

/-! ## Refusals -/

/-- A schema that is refused: its content is new, and either its uri is taken
while nothing may be taken over, or no id is left. -/
def Refuses (r : Registry) (s : Schema) (shadowing : Bool) : Prop :=
  r.byHash? s.contentHash = none ∧
    ((r.byUri? s.uri).isSome ∧ shadowing = false ∨ maxDefId ≤ r.size)

/-- The index by hash names definitions that are there. -/
theorem Sound.byHash?_eq_none_iff (hr : r.Sound) {hash : String} :
    r.byHash? hash = none ↔ r.byHash[hash]? = none := by
  unfold byHash?
  cases hid : r.byHash[hash]? with
  | none => simp
  | some n =>
    obtain ⟨d, hd, -⟩ := (hr.byHash_iff hash n).1 hid
    simp [hd]

/-- The index by uri names definitions that are there. -/
theorem Sound.isSome_byUri?_iff (hr : r.Sound) {uri : String} :
    (r.byUri? uri).isSome ↔ r.byUri[uri]? ≠ none := by
  unfold byUri?
  cases hid : r.byUri[uri]? with
  | none => simp
  | some n =>
    obtain ⟨d, hd, -⟩ := (hr.byUri_iff uri n).1 hid
    simp [hd]

/-- **Registering fails if and only if** the schema is refused. -/
theorem Sound.register_fails_iff (hr : r.Sound) :
    (∃ e, r.register s shadowing = .error e) ↔ r.Refuses s shadowing := by
  unfold Refuses
  rw [hr.byHash?_eq_none_iff, hr.isSome_byUri?_iff]
  have hroom : maxDefId < r.size + 1 ↔ maxDefId ≤ r.size := Nat.lt_succ_iff
  rw [register_eq, verdict]
  cases hhash : r.byHash[s.contentHash]? with
  | some n => simp [Except.map]
  | none =>
    cases huri : r.byUri[s.uri]? with
    | none => by_cases hlt : maxDefId < r.size + 1 <;> simp [Except.map, hlt, ← hroom]
    | some previous =>
      cases shadowing with
      | false => simp [Except.map]
      | true => by_cases hlt : maxDefId < r.size + 1 <;> simp [Except.map, hlt, ← hroom]

/-- A uri that some definition bears resolves. -/
theorem Sound.byUri_ne_none (hr : r.Sound) {n : Nat} {d : Definition} (hd : r.byId? n = some d) :
    r.byUri[d.uri]? ≠ none := by
  -- on how far the id is from the greatest one
  induction hk : r.size - n using Nat.strongRecOn generalizing n d with
  | ind k ih =>
    by_cases hmax : ∀ (m : Nat) e, r.byId? m = some e → e.uri = d.uri → m ≤ n
    · rw [(hr.byUri_iff d.uri n).2 ⟨d, hd, rfl, hmax⟩]
      simp
    -- a greater id bears the uri, and is closer to the greatest one
    · obtain ⟨m, e, he, huri, hlt⟩ : ∃ (m : Nat) (e : Definition), r.byId? m = some e ∧
          e.uri = d.uri ∧ n < m := by
        simp only [Classical.not_forall] at hmax
        obtain ⟨m, e, he, huri, hlt⟩ := hmax
        exact ⟨m, e, he, huri, Nat.lt_of_not_le hlt⟩
      have hle := byId?_lt he
      rw [← huri]
      exact ih (r.size - m) (by omega) he rfl

/-! ## Distinct uris -/

/-- No uri is borne by two definitions. -/
def DistinctUris (r : Registry) : Prop :=
  ∀ (n m : Nat) d e, r.byId? n = some d → r.byId? m = some e → d.uri = e.uri → n = m

/-- Without shadowing, registering gives no definition the uri of another one. -/
theorem DistinctUris.register (hr : r.Sound) (hdistinct : r.DistinctUris)
    (h : r.register s false = .ok (r', outcome)) : r'.DistinctUris := by
  rcases register_cases h with ⟨rfl, -⟩ | ⟨rfl, -, -, huri⟩
  · exact hdistinct
  have hnew : r.byUri[s.uri]? = none := by
    rcases huri with h | h
    · exact h
    · cases h
  -- a uri that is borne resolves, and that of the new definition does not
  have hother : ∀ (n : Nat) d, r.byId? n = some d → d.uri ≠ s.uri := by
    intro n d hd heq
    exact hr.byUri_ne_none hd (by rw [heq, hnew])
  intro n m d e hn hm heq
  rw [byId?_push] at hn hm
  split at hn <;> split at hm
  · omega
  · obtain rfl := Option.some.inj hn
    exact absurd heq.symm (hother m e hm)
  · obtain rfl := Option.some.inj hm
    exact absurd heq (hother n d hn)
  · exact hdistinct n m d e hn hm heq

/-- Where every identifier names a definition, it makes no difference whether one that
names none would be refused or skipped. -/
theorem resolve_of_strict {idents : List DefIdent} {mask : Bitfield}
    (h : r.resolve true idents = .ok mask) : r.resolve false idents = .ok mask := by
  have hgo : ∀ acc, resolve.go r true acc idents = .ok mask →
      resolve.go r false acc idents = .ok mask := by
    clear h
    induction idents with
    | nil => exact fun _ h => h
    | cons ident rest ih =>
      intro acc h
      rw [resolve.go] at h ⊢
      cases hfind : r.find? ident with
      | some d =>
        rw [hfind] at h
        exact ih _ h
      | none =>
        rw [hfind] at h
        cases h
  exact hgo _ h

end Registry

end EntityBase
