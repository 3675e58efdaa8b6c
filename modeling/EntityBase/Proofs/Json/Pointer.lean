import EntityBase.Json.Pointer

/-!
# Pointers — writing the path to a value

A path of names is written as a pointer with the slashes and tildes of every name
escaped (`pointerTo`), and following that pointer is walking along the names
(`pointer?_pointerTo`). A pointer is taken apart at its first segment: one step along
it, and what is behind is a pointer again (`pointer?_slash`).
-/

namespace EntityBase.Json

variable {c : Char} {s path rest : List Char} {name : String} {value next : Json}

/-! ## Escapes -/

/-- A name as a segment: its slashes and tildes are escaped. -/
def escapeSegment : List Char → List Char
  | [] => []
  | c :: rest =>
    if c = '~' then '~' :: '0' :: escapeSegment rest
    else if c = '/' then '~' :: '1' :: escapeSegment rest
    else c :: escapeSegment rest

theorem escapeSegment_cons (htilde : c ≠ '~') (hslash : c ≠ '/') :
    escapeSegment (c :: rest) = c :: escapeSegment rest := by
  rw [escapeSegment, if_neg htilde, if_neg hslash]

theorem unescapeSegment_cons (hc : c ≠ '~') :
    unescapeSegment (c :: rest) = c :: unescapeSegment rest := by
  rw [unescapeSegment]
  · rintro _ rfl
    exact (hc rfl).elim
  · rintro _ rfl
    exact (hc rfl).elim

/-- **An escaped name is read back.** -/
@[simp] theorem unescapeSegment_escapeSegment (s : List Char) :
    unescapeSegment (escapeSegment s) = s := by
  induction s with
  | nil => rfl
  | cons c s ih =>
    by_cases htilde : c = '~'
    · subst htilde
      rw [escapeSegment, if_pos rfl, unescapeSegment, ih]
    by_cases hslash : c = '/'
    · subst hslash
      rw [escapeSegment, if_neg htilde, if_pos rfl, unescapeSegment, ih]
    · rw [escapeSegment_cons htilde hslash, unescapeSegment_cons htilde, ih]

theorem slash_notMem_escapeSegment (s : List Char) : '/' ∉ escapeSegment s := by
  induction s with
  | nil => simp [escapeSegment]
  | cons c s ih =>
    rw [escapeSegment]
    split
    · simp [ih]
    split
    · simp [ih]
    · rename_i hslash
      simp [Ne.symm hslash, ih]

theorem length_le_escapeSegment (s : List Char) : s.length ≤ (escapeSegment s).length := by
  induction s with
  | nil => exact Nat.le_refl 0
  | cons c s ih =>
    rw [escapeSegment]
    split
    · exact Nat.le_succ_of_le (Nat.succ_le_succ ih)
    split
    · exact Nat.le_succ_of_le (Nat.succ_le_succ ih)
    · exact Nat.succ_le_succ ih

/-- A name is its own segment if there is nothing to escape. -/
theorem escapeSegment_eq_self_iff : escapeSegment s = s ↔ '~' ∉ s ∧ '/' ∉ s := by
  induction s with
  | nil => simp [escapeSegment]
  | cons c s ih =>
    have hlonger : ∀ d, '~' :: d :: escapeSegment s ≠ c :: s := by
      intro d heq
      have hlength := congrArg List.length heq
      have := length_le_escapeSegment s
      simp only [List.length_cons] at hlength
      omega
    by_cases htilde : c = '~'
    · subst htilde
      rw [escapeSegment, if_pos rfl]
      simp [hlonger]
    by_cases hslash : c = '/'
    · subst hslash
      rw [escapeSegment, if_neg htilde, if_pos rfl]
      simp [hlonger]
    · rw [escapeSegment_cons htilde hslash, List.cons.injEq, ih]
      simp [Ne.symm htilde, Ne.symm hslash]

theorem length_unescapeSegment_le (s : List Char) : (unescapeSegment s).length ≤ s.length := by
  induction s using unescapeSegment.induct with
  | case1 rest ih => exact Nat.le_succ_of_le (Nat.succ_le_succ ih)
  | case2 rest ih => exact Nat.le_succ_of_le (Nat.succ_le_succ ih)
  | case3 c rest h1 h0 ih =>
    rw [unescapeSegment]
    · exact Nat.succ_le_succ ih
    · exact h1
    · exact h0
  | case4 => exact Nat.le_refl 0

/-- A segment stands for itself if it has no escape. -/
theorem unescapeSegment_eq_self_iff :
    unescapeSegment s = s ↔ ¬ ['~', '0'] <:+: s ∧ ¬ ['~', '1'] <:+: s := by
  induction s using unescapeSegment.induct with
  | case1 rest ih =>
    have hshorter : '/' :: unescapeSegment rest ≠ '~' :: '1' :: rest := fun heq =>
      absurd (List.cons.inj heq).1 (by decide)
    rw [unescapeSegment]
    simp [hshorter, List.infix_cons_iff]
  | case2 rest ih =>
    have hshorter : '~' :: unescapeSegment rest ≠ '~' :: '0' :: rest := by
      intro heq
      have hlength := congrArg List.length heq
      have := length_unescapeSegment_le rest
      simp only [List.length_cons] at hlength
      omega
    rw [unescapeSegment]
    simp [hshorter, List.infix_cons_iff]
  | case3 c rest h1 h0 ih =>
    have hfirst : ¬ ['~', '0'] <+: c :: rest ∧ ¬ ['~', '1'] <+: c :: rest := by
      refine ⟨?_, ?_⟩
      · rintro ⟨tail, htail⟩
        obtain ⟨rfl, rfl⟩ := List.cons.inj htail
        exact h0 tail rfl rfl
      · rintro ⟨tail, htail⟩
        obtain ⟨rfl, rfl⟩ := List.cons.inj htail
        exact h1 tail rfl rfl
    have hstep : unescapeSegment (c :: rest) = c :: unescapeSegment rest := by
      rw [unescapeSegment]
      · exact h1
      · exact h0
    rw [hstep, List.cons.injEq, ih, List.infix_cons_iff, List.infix_cons_iff]
    simp only [hfirst.1, hfirst.2, true_and, false_or]
  | case4 => simp [unescapeSegment]

/-! ## The first segment -/

/-- The first segment of a path. -/
def firstSegment (path : List Char) : List Char := path.takeWhile (· != '/')

/-- What is behind the first segment of a path, with its slash. -/
def behind (path : List Char) : List Char := path.dropWhile (· != '/')

theorem drop_firstSegment (path : List Char) :
    path.drop (firstSegment path).length = behind path := by
  have hsplit : firstSegment path ++ behind path = path := List.takeWhile_append_dropWhile
  have hdrop : (firstSegment path ++ behind path).drop (firstSegment path).length = behind path :=
    List.drop_left
  rwa [hsplit] at hdrop

theorem behind_eq_nil_or (path : List Char) :
    behind path = [] ∨ ∃ rest, behind path = '/' :: rest := by
  have hhead := List.head?_dropWhile_not (· != '/') path
  unfold behind
  cases hbehind : path.dropWhile (· != '/') with
  | nil => exact .inl rfl
  | cons c rest =>
    rw [hbehind] at hhead
    obtain rfl : c = '/' := by simpa using hhead
    exact .inr ⟨rest, rfl⟩

/-- A segment in front of nothing or of a slash is the first. -/
theorem firstSegment_append (hs : '/' ∉ s) (hrest : rest = [] ∨ ∃ tail, rest = '/' :: tail) :
    firstSegment (s ++ rest) = s ∧ behind (s ++ rest) = rest := by
  have hall : ∀ c ∈ s, (c != '/') = true := by
    intro c hc
    simpa using fun heq : c = '/' => hs (heq ▸ hc)
  unfold firstSegment behind
  rw [List.takeWhile_append_of_pos hall, List.dropWhile_append_of_pos hall]
  rcases hrest with rfl | ⟨tail, rfl⟩
  · simp
  · simp

theorem segments_eq (path : List Char) :
    segments path = firstSegment path ::
      (match behind path with
        | _ :: rest => segments rest
        | [] => []) := by
  induction path with
  | nil => rfl
  | cons c path ih =>
    rw [segments]
    by_cases hc : c = '/'
    · subst hc
      rfl
    · have hfirst : firstSegment (c :: path) = c :: firstSegment path :=
        List.takeWhile_cons_of_pos (by simpa using hc)
      have hbehind : behind (c :: path) = behind path :=
        List.dropWhile_cons_of_pos (by simpa using hc)
      rw [if_neg hc, ih, hfirst, hbehind]

/-- **A pointer is one step and a pointer.** -/
theorem pointer?_slash (value : Json) (path : List Char) :
    value.pointer? ('/' :: path)
      = (step? (firstSegment path) value).bind fun next => next.pointer? (behind path) := by
  rw [pointer?, segments_eq, follow]
  rcases behind_eq_nil_or path with hnil | ⟨rest, hrest⟩
  · rw [hnil]
    rfl
  · rw [hrest]
    rfl

/-- Whatever is behind a first segment, some value has something there. -/
theorem exists_pointer? (path : List Char) :
    ∃ value : Json, value.pointer? (behind path) ≠ none := by
  have hnested : ∀ names : List (List Char), ∃ value : Json, follow value names ≠ none := by
    intro names
    induction names with
    | nil => exact ⟨.null, by simp [follow]⟩
    | cons s names ih =>
      obtain ⟨value, hvalue⟩ := ih
      refine ⟨.object [(String.ofList (unescapeSegment s), value)], ?_⟩
      rw [follow, step?, Entries.get?, if_pos (by simp)]
      exact hvalue
  rcases behind_eq_nil_or path with hnil | ⟨rest, hrest⟩
  · rw [hnil]
    exact ⟨.null, by simp [pointer?]⟩
  · rw [hrest]
    exact hnested (segments rest)

/-! ## Paths of names -/

/-- The value in a named field, or at a position that is written in decimal. -/
def child? (name : String) : Json → Option Json
  | .object fields => Entries.get? name fields
  | .array items => (position? name.toList).bind fun i => items[i]?
  | _ => none

/-- The value at the end of a path of names. -/
def at? (value : Json) : List String → Option Json
  | [] => some value
  | name :: rest => (child? name value).bind fun next => next.at? rest

/-- The pointer that names the end of a path. -/
def pointerTo (names : List String) : List Char :=
  names.flatMap fun name => '/' :: escapeSegment name.toList

theorem pointerTo_cons (name : String) (names : List String) :
    pointerTo (name :: names) = '/' :: (escapeSegment name.toList ++ pointerTo names) := rfl

theorem pointerTo_eq_nil_or (names : List String) :
    pointerTo names = [] ∨ ∃ tail, pointerTo names = '/' :: tail := by
  cases names with
  | nil => exact .inl rfl
  | cons name names => exact .inr ⟨_, pointerTo_cons name names⟩

/-- The first segment of the pointer to a path is the first name, escaped. -/
theorem firstSegment_pointerTo (name : String) (names : List String) :
    firstSegment (escapeSegment name.toList ++ pointerTo names) = escapeSegment name.toList ∧
      behind (escapeSegment name.toList ++ pointerTo names) = pointerTo names :=
  firstSegment_append (slash_notMem_escapeSegment _) (pointerTo_eq_nil_or names)

theorem step?_escapeSegment (name : String) (value : Json) :
    step? (escapeSegment name.toList) value = child? name value := by
  cases value <;> simp [step?, child?]

/-- **The pointer to a path leads to what is at its end**, whatever the names are. -/
theorem pointer?_pointerTo (value : Json) (names : List String) :
    value.pointer? (pointerTo names) = value.at? names := by
  induction names generalizing value with
  | nil => rfl
  | cons name names ih =>
    obtain ⟨hfirst, hbehind⟩ := firstSegment_pointerTo name names
    rw [pointerTo_cons, pointer?_slash, hfirst, hbehind, step?_escapeSegment, at?]
    simp only [ih]

end EntityBase.Json
