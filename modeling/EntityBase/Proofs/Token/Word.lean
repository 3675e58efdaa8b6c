import EntityBase.Proofs.Token.Spelling

/-!
# Words — the tokens that are spelled as they are

A bare word, a reference, an escape and the path of an attribute are tokens that keep
the word characters that they were read from. Wherever such a token was read, its text
is a run of word characters that begins no comment (`isWord_of_tokens`), and so the
text is read as that token wherever it stands, if it does not begin with a tilde.
-/

namespace EntityBase.Lexer

variable {text w : List Char} {t : Token} {tokens : List Token} {n : Nat}

/-- The tokens that keep the word characters that they were read from. -/
def isVerbatim : Token → Bool
  | .word _ | .ref _ | .escaped _ | .attr _ => true
  | _ => false

/-- A run of word characters that was read is a word, where no comment begins. -/
theorem isWord_of_readWord (hcomment : ¬ ['/', '/'] <+: text)
    (h : readWord text (text.takeWhile isWordChar).length = .token t n) :
    ∃ w, IsWord w ∧ ofWord w = some t := by
  have htake : text.take (text.takeWhile isWordChar).length = text.takeWhile isWordChar :=
    (List.prefix_iff_eq_take.1 (List.takeWhile_prefix _)).symm
  unfold readWord at h
  rw [htake] at h
  split at h
  · cases h
  rename_i hlength
  split at h
  · cases h
  split at h
  · rename_i u hu
    obtain ⟨rfl, -⟩ := Reading.token.inj h
    refine ⟨text.takeWhile isWordChar, ⟨fun c hc => ?_, ?_, fun hstart => ?_⟩, hu⟩
    · exact List.all_eq_true.1 List.all_takeWhile c hc
    · exact fun hnil => hlength (by rw [hnil]; rfl)
    · exact hcomment (hstart.trans (List.takeWhile_prefix _))
  · cases h

/-- A form with characters of its own gives its own token, or else a word. -/
theorem isWord_of_readForm {opening after : Nat} {run : Run} {token : List Char → Token}
    (hcomment : ¬ ['/', '/'] <+: text) (htoken : ∀ w, isVerbatim (token w) = false)
    (h : readForm text opening run after token = .token t n) (ht : isVerbatim t = true) :
    ∃ w, IsWord w ∧ ofWord w = some t := by
  unfold readForm at h
  dsimp only at h
  split at h
  · split at h
    · obtain ⟨rfl, -⟩ := Reading.token.inj h
      rw [htoken] at ht
      cases ht
    · exact isWord_of_readWord hcomment h
  · split at h
    · cases h
    · exact isWord_of_readWord hcomment h

/-- **What is read as such a token is a word.** -/
theorem isWord_of_read (h : read text = .token t n) (ht : isVerbatim t = true) :
    ∃ w, IsWord w ∧ ofWord w = some t := by
  have hother {u : Token} {m : Nat} (h : Reading.token u m = .token t n)
      (hu : isVerbatim u = false) : False := by
    obtain ⟨rfl, -⟩ := Reading.token.inj h
    rw [hu] at ht
    cases ht
  rw [read.eq_def] at h
  split at h
  · cases h
  · cases h
  -- brackets and texts between quotes are other tokens
  · exact (hother h rfl).elim
  · exact (hother h rfl).elim
  · exact (hother h rfl).elim
  · exact (hother h rfl).elim
  · dsimp only at h
    split at h
    · exact (hother h rfl).elim
    · cases h
  · dsimp only at h
    split at h
    · exact (hother h rfl).elim
    · cases h
  · exact isWord_of_readForm (by simp) (fun _ => rfl) h ht
  · exact isWord_of_readForm (by simp) (fun _ => rfl) h ht
  · rename_i c rest hcomment _ _ _ _ _ _ _ _
    split at h
    · cases h
    · refine isWord_of_readWord ?_ h
      rintro ⟨rest', heq⟩
      obtain ⟨rfl, rfl⟩ := List.cons.inj heq
      exact hcomment rest' rfl rfl

theorem isWord_of_tokens (h : Tokens text tokens) (ht : t ∈ tokens)
    (hverbatim : isVerbatim t = true) : ∃ w, IsWord w ∧ ofWord w = some t := by
  induction h with
  | nil => cases ht
  | token hread _ _ ih =>
    rcases List.mem_cons.1 ht with rfl | ht
    · exact isWord_of_read hread hverbatim
    · exact ih ht
  | skipped _ _ _ ih => exact ih ht

end EntityBase.Lexer
