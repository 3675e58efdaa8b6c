import EntityBase.Proofs.Json.Text
import EntityBase.Proofs.Registry.History

/-!
# Contents — which schemas get one id

A registry tells schemas apart by a digest of their content. The text that is
digested gives back the uri and, of each property in order, its name, its type
and its default (`Schema.text_canonical_inj`), with one exception: a property
without a default is written like one whose default is `null`. So where the
digest does not make two texts one, two schemas get one id exactly if they agree
up to that exception (`same_id_iff`), and the exception does merge schemas that
differ (`same_id_missing_default`).
-/

namespace EntityBase

namespace Property

/-- What the digest knows of a property: a missing default is `null`. -/
def content (p : Property) : String × PropertyType × Json :=
  (p.name, p.type, p.default.getD .null)

theorem name_injective {t u : PropertyType} (h : t.name = u.name) : t = u := by
  have hread := PropertyType.ofName?_name t
  rw [h, PropertyType.ofName?_name] at hread
  exact (Option.some.inj hread).symm

theorem canonical_eq_iff {p q : Property} : p.canonical = q.canonical ↔ p.content = q.content := by
  unfold canonical content
  simp only [Json.array.injEq, List.cons.injEq, Json.string.injEq, Prod.mk.injEq, and_true]
  exact and_congr_right fun _ => and_congr_left fun _ => ⟨name_injective, congrArg _⟩

theorem map_canonical_eq_iff {ps qs : List Property} :
    ps.map canonical = qs.map canonical ↔ ps.map content = qs.map content := by
  induction ps generalizing qs with
  | nil => cases qs <;> simp
  | cons p ps ih =>
    cases qs with
    | nil => simp
    | cons q qs => simp only [List.map_cons, List.cons.injEq, canonical_eq_iff, ih]

end Property

namespace Schema

variable {s t : Schema}

theorem canonical_eq_iff : s.canonical = t.canonical ↔
    s.uri = t.uri ∧ s.properties.map Property.content = t.properties.map Property.content := by
  unfold canonical
  simp only [Json.object.injEq, List.cons.injEq, Prod.mk.injEq, Json.array.injEq,
    Json.string.injEq, true_and, and_true, Property.map_canonical_eq_iff]
  exact and_comm

/-- The content of a schema with well-formed defaults is well-formed. -/
theorem wellFormed_canonical (h : s.WellFormed) : s.canonical.WellFormed := by
  have hproperty (p : Property) (hp : p ∈ s.properties) : p.canonical.WellFormed := by
    refine ⟨trivial, trivial, ?_, trivial⟩
    cases hdefault : p.default with
    | none => trivial
    | some value => exact h p hp value hdefault
  have hproperties : ∀ ps : List Property, (∀ p ∈ ps, p.canonical.WellFormed) →
      Json.WellFormedItems (ps.map Property.canonical) := by
    intro ps
    induction ps with
    | nil => exact fun _ => trivial
    | cons p ps ih => exact fun hps => ⟨hps p (List.mem_cons_self ..),
        ih fun q hq => hps q (List.mem_cons_of_mem _ hq)⟩
  have hkeys : compare "properties" "uri" = .lt := by decide +kernel
  have hsorted : Entries.Sorted [("properties", Json.array (s.properties.map Property.canonical)),
      ("uri", Json.string s.uri)] := by
    simp [Entries.Sorted, hkeys]
  exact ⟨hsorted, hproperties s.properties hproperty, trivial, trivial⟩

/-- **The text that is digested gives back the content.** -/
theorem text_canonical_inj (hs : s.WellFormed) (ht : t.WellFormed) :
    s.canonical.text = t.canonical.text ↔
      s.uri = t.uri ∧ s.properties.map Property.content = t.properties.map Property.content := by
  rw [← canonical_eq_iff]
  exact ⟨Json.text_injective (wellFormed_canonical hs) (wellFormed_canonical ht), congrArg _⟩

end Schema

namespace Registry

variable {r r' : Registry} {s : Schema} {outcome : Registration}

/-- Where an id is left, a schema that may take over its uri is registered under its
hash. -/
theorem Sound.register_shadowing (hr : r.Sound) (s : Schema) (hroom : r.size < maxDefId) :
    ∃ r' outcome, r.register s true = .ok (r', outcome) ∧ r'.size ≤ r.size + 1 ∧
      ∃ d, r'.byId? outcome.id = some d ∧ d.hash = s.contentHash := by
  have hanswers := hr.answers s true
  cases hknown : r.byHash? s.contentHash with
  | some d =>
    obtain ⟨⟨n, hn⟩, hhash⟩ := hr.byHash?_eq_some_iff.1 hknown
    have hat : r.byId? d.id = some d := hr.byId?_id (mem_toList_iff.2 ⟨n, hn⟩)
    exact ⟨r, _, hanswers.known d hknown, Nat.le_succ _, d, hat, hhash⟩
  | none =>
    obtain ⟨r', outcome, hregister, hid, hlist⟩ := hanswers.new hknown (Or.inr rfl) hroom
    have hr' : r'.Sound := Sound.register hr hregister
    have hmem : s.define (r.size + 1) ∈ r'.toList := by
      rw [hlist]
      exact List.mem_append_right _ (List.mem_singleton.2 rfl)
    have hlength : r'.toList.length = r.toList.length + 1 := by
      rw [hlist, List.length_append, List.length_singleton]
    have hat : r'.byId? (r.size + 1) = some (s.define (r.size + 1)) := hr'.byId?_id hmem
    refine ⟨r', outcome, hregister, Nat.le_of_eq hlength, s.define (r.size + 1), ?_, rfl⟩
    rw [hid]
    exact hat

/-- **One id for one hash.** Two registrations, one after the other, give one id exactly
if the schemas have one hash. -/
theorem Sound.same_id_iff_hash (hr : r.Sound) {r₁ r₂ : Registry} {s₁ s₂ : Schema}
    {o₁ o₂ : Registration} {d₁ d₂ : Definition}
    (h₁ : r.register s₁ true = .ok (r₁, o₁)) (h₂ : r₁.register s₂ true = .ok (r₂, o₂))
    (hd₁ : r₁.byId? o₁.id = some d₁) (hhash₁ : d₁.hash = s₁.contentHash)
    (hd₂ : r₂.byId? o₂.id = some d₂) (hhash₂ : d₂.hash = s₂.contentHash) :
    o₁.id = o₂.id ↔ s₁.contentHash = s₂.contentHash := by
  have hr₂ : r₂.Sound := Sound.register (Sound.register hr h₁) h₂
  have hkept : r₂.byId? o₁.id = some d₁ := byId?_register h₂ hd₁
  constructor
  · intro hid
    rw [hid, hd₂] at hkept
    rw [← hhash₁, ← hhash₂, Option.some.inj hkept]
  · intro hhash
    have hsame : d₁ = d₂ := hr₂.eq_of_hash_eq (mem_toList_iff.2 ⟨_, hkept⟩)
      (mem_toList_iff.2 ⟨_, hd₂⟩) (by rw [hhash₁, hhash₂, hhash])
    rw [← hr₂.id_eq _ _ hkept, ← hr₂.id_eq _ _ hd₂, hsame]

/-- **Which schemas get one id.** In every registry that requests led to and that has ids
left for both, two schemas are registered one after the other, and where the digest does
not make two different contents one, they get one id exactly if their uris agree and their
properties in order, each with its name, its type and its default, a missing default
counting as `null`. -/
theorem same_id_iff (requests : List Request) (s₁ s₂ : Schema) (h₁ : s₁.WellFormed)
    (h₂ : s₂.WellFormed) (hroom : (empty.afterAll requests).size + 2 ≤ maxDefId)
    (hdigest : Digest.shortHex s₁.canonical.text = Digest.shortHex s₂.canonical.text →
      s₁.canonical.text = s₂.canonical.text) :
    ∃ r₁ r₂ o₁ o₂, (empty.afterAll requests).register s₁ true = .ok (r₁, o₁) ∧
      r₁.register s₂ true = .ok (r₂, o₂) ∧
      (o₁.id = o₂.id ↔ s₁.uri = s₂.uri ∧
        s₁.properties.map Property.content = s₂.properties.map Property.content) := by
  have hr : (empty.afterAll requests).Sound := sound_afterAll requests
  generalize empty.afterAll requests = r at *
  obtain ⟨r₁, o₁, hregister₁, hsize, d₁, hd₁, hhash₁⟩ :=
    hr.register_shadowing s₁ (Nat.lt_of_succ_le (Nat.le_of_succ_le hroom))
  have hroom₁ : r₁.size < maxDefId := Nat.lt_of_le_of_lt hsize (Nat.lt_of_succ_le hroom)
  obtain ⟨r₂, o₂, hregister₂, -, d₂, hd₂, hhash₂⟩ :=
    (Sound.register hr hregister₁).register_shadowing s₂ hroom₁
  refine ⟨r₁, r₂, o₁, o₂, hregister₁, hregister₂, ?_⟩
  rw [hr.same_id_iff_hash hregister₁ hregister₂ hd₁ hhash₁ hd₂ hhash₂,
    ← Schema.text_canonical_inj h₁ h₂]
  exact ⟨hdigest, congrArg _⟩

/-- A default of `1` is told apart from a missing one, and a default of `null` is not. -/
theorem same_id_iff_size :
    let bare : Schema := { uri := "/note", properties := [{ name := "size" }] }
    let null : Schema := { uri := "/note", properties := [{ name := "size", default := some .null }] }
    let one : Schema := { uri := "/note", properties := [{ name := "size", default := some (.int 1) }] }
    (∃ r₁ r₂ o₁ o₂, empty.register bare true = .ok (r₁, o₁) ∧
      r₁.register one true = .ok (r₂, o₂) ∧ o₁.id ≠ o₂.id) ∧
    ∃ r₁ r₂ o₁ o₂, empty.register bare true = .ok (r₁, o₁) ∧
      r₁.register null true = .ok (r₂, o₂) ∧ o₁.id = o₂.id := by
  intro bare null one
  have hwell (v : Option Json) (hv : ∀ value, v = some value → value.WellFormed) :
      Schema.WellFormed { uri := "/note", properties := [{ name := "size", default := v }] } := by
    intro p hp value hvalue
    obtain rfl := List.mem_singleton.1 hp
    exact hv value hvalue
  have hbare : bare.WellFormed := hwell none nofun
  have hnull : null.WellFormed := hwell (some .null) fun _ h => Option.some.inj h ▸ trivial
  have hone : one.WellFormed := hwell (some (.int 1)) fun _ h => Option.some.inj h ▸ trivial
  constructor
  · obtain ⟨r₁, r₂, o₁, o₂, hregister₁, hregister₂, hiff⟩ :=
      same_id_iff [] bare one hbare hone (by decide) fun h => absurd h (by decide +kernel)
    refine ⟨r₁, r₂, o₁, o₂, hregister₁, hregister₂, fun hid => ?_⟩
    have hcontent := (hiff.1 hid).2
    simp [bare, one, Property.content] at hcontent
  · obtain ⟨r₁, r₂, o₁, o₂, hregister₁, hregister₂, hiff⟩ :=
      same_id_iff [] bare null hbare hnull (by decide) fun _ => rfl
    exact ⟨r₁, r₂, o₁, o₂, hregister₁, hregister₂, hiff.2 ⟨rfl, rfl⟩⟩

/-- **Schemas that differ get one id.** A property without a default and one whose default
is `null` are not the same, and a fresh component has the field of the second one only;
yet whichever of the two comes first is the definition of both. -/
theorem same_id_missing_default :
    let bare : Schema := { uri := "/note", properties := [{ name := "size" }] }
    let null : Schema := { uri := "/note", properties := [{ name := "size", default := some .null }] }
    let twice (first second : Schema) : Option (Registration × Registration) := do
      let (r, o) ← (empty.register first true).toOption
      let (_, o') ← (r.register second true).toOption
      return (o, o')
    bare.same null = false ∧
      ((bare.define 1).defaults.entries.length, (null.define 1).defaults.entries.length) = (0, 1) ∧
      twice bare null = some (.created 1, .existing 1) ∧
      twice null bare = some (.created 1, .existing 1) := by
  intro bare null twice
  exact ⟨by decide, by decide, by decide +kernel, by decide +kernel⟩

end Registry

end EntityBase
