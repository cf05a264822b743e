import SignalPurple.Core.Outbox.Durability

/-! # Classification of send errors

`classify` looks for status codes in the text of an error wherever they occur, also inside
of a port, a duration or an identifier. A row is kept for another attempt only if the text
holds none of the codes at all.
-/

namespace SignalPurple

def statusCodes : List String := ["401", "403", "404"]

def fatalWords : List String :=
  ["unregistered", "not registered", "untrusted identity", "untrustedidentity",
    "authorization failed", "forbidden", "not found"]

theorem fatalPhrases_eq : fatalPhrases = statusCodes ++ fatalWords := rfl

/-- Wherever the code occurs, a letter or a digit stands right before or right after it. -/
def OnlyInRuns (text code : List Char) : Prop :=
  ∀ start < text.length, code <+: text.drop start →
    (text.take start).getLast?.any Char.isAlphanum = true ∨
      (text.drop (start + code.length)).head?.any Char.isAlphanum = true

/-- The text of an error that names no status and says nothing else that is fatal. -/
structure NamesNoStatus (text : String) : Prop where
  codes : ∀ code ∈ statusCodes, OnlyInRuns text.toList code.toList
  words : ∀ word ∈ fatalWords, containsText (toAsciiLowercase text) word = false

/-- The error may be retried, and none of the first four failures of a row removes it. -/
structure StaysQueued (text : String) : Prop where
  retryable : (OutboxAttemptError.classify text).shouldRetry = true
  kept : ∀ (outbox : Outbox), ∀ row ∈ outbox.rows, row.attempts < 4 →
    ∀ (finish : StoreWrite) (clockMs : Nat),
      ∃ after ∈ (finishOutboxAttempt outbox row.toClientOutboxMessage
        (.error (OutboxAttemptError.classify text)) finish clockMs).1.rows, after.id = row.id

/-! ## Codes in lower case -/

theorem toLower_eq_digit {character digit : Char} (isDigit : digit.isDigit = true) :
    character.toLower = digit ↔ character = digit := by
  simp only [Char.isDigit, Bool.and_eq_true, decide_eq_true_eq, ge_iff_le,
    UInt32.le_iff_toNat_le] at isDigit
  have nine : '9'.val.toNat = 57 := rfl
  unfold Char.toLower
  split
  next upper =>
    obtain ⟨low, high⟩ := upper
    rw [ge_iff_le, UInt32.le_iff_toNat_le] at low
    rw [UInt32.le_iff_toNat_le] at high
    have first : 'A'.val.toNat = 65 := rfl
    have last : 'Z'.val.toNat = 90 := rfl
    have shift : ('a'.val - 'A'.val).toNat = 32 := rfl
    constructor
    · intro lowered
      have value : character.val + ('a'.val - 'A'.val) = digit.val := congrArg Char.val lowered
      have sum := UInt32.toNat_add character.val ('a'.val - 'A'.val)
      rw [value] at sum
      omega
    · rintro rfl
      omega
  next => exact Iff.rfl

theorem map_toLower_eq {characters digits : List Char}
    (areDigits : ∀ digit ∈ digits, digit.isDigit = true) :
    characters.map Char.toLower = digits ↔ characters = digits := by
  induction digits generalizing characters with
  | nil => exact List.map_eq_nil_iff
  | cons digit later induction =>
      obtain ⟨first, rest⟩ := List.forall_mem_cons.mp areDigits
      cases characters with
      | nil => simp
      | cons character remaining =>
          rw [List.map_cons, List.cons.injEq, List.cons.injEq, toLower_eq_digit first,
            induction rest]

theorem containsText_lowercase {text code : String}
    (areDigits : ∀ digit ∈ code.toList, digit.isDigit = true) :
    containsText (toAsciiLowercase text) code = containsText text code := by
  have same : code.toList <:+: text.toList.map Char.toLower ↔ code.toList <:+: text.toList := by
    rw [List.infix_map_iff]
    constructor
    · rintro ⟨part, within, lowered⟩
      rwa [← (map_toLower_eq areDigits).mp lowered.symm]
    · intro within
      exact ⟨code.toList, within, ((map_toLower_eq areDigits).mpr rfl).symm⟩
  simp only [containsText, toAsciiLowercase, String.toList_ofList, same]

theorem digits_of_statusCodes :
    ∀ code ∈ statusCodes, ∀ digit ∈ code.toList, digit.isDigit = true := by
  have digits : statusCodes.all (fun code => code.toList.all Char.isDigit) = true := by
    decide +kernel
  intro code member
  exact List.all_eq_true.mp (List.all_eq_true.mp digits code member)

theorem shouldRetry_classify (text : String) :
    (OutboxAttemptError.classify text).shouldRetry = true ↔
      ∀ phrase ∈ fatalPhrases, containsText (toAsciiLowercase text) phrase = false := by
  unfold OutboxAttemptError.classify
  split
  next fatal =>
    obtain ⟨phrase, member, found⟩ := List.any_eq_true.mp fatal
    constructor
    · intro retry
      cases retry
    · intro absent
      cases (absent phrase member).symm.trans found
  next harmless =>
    simp only [Bool.not_eq_true, List.any_eq_false] at harmless
    exact ⟨fun _ phrase member => by simpa using harmless phrase member, fun _ => rfl⟩

theorem staysQueued_of_retryable {text : String}
    (retryable : (OutboxAttemptError.classify text).shouldRetry = true) : StaysQueued text where
  retryable
  kept outbox row member early finish clockMs := by
    have attempts : nextAttempts row.toClientOutboxMessage = row.attempts + 1 := by
      unfold nextAttempts saturatingAdd
      omega
    have pending : isTerminal row.toClientOutboxMessage (OutboxAttemptError.classify text) =
        false := by
      simp only [isTerminal, retryable, attempts, maxOutboxAttempts]
      simp
      omega
    simp only [finishOutboxAttempt, pending]
    cases finish with
    | stored => exact ⟨_, Outbox.mem_defer member _ _, rfl⟩
    | failed error => exact ⟨row, member, rfl⟩

/-- An error that names no status leaves its row in the outbox if and only if the digits of
no status occur anywhere in its text. -/
theorem staysQueued_iff (text : String) (harmless : NamesNoStatus text) :
    StaysQueued text ↔ ∀ code ∈ statusCodes, containsText text code = false := by
  constructor
  · intro stays code member
    have phrase : code ∈ fatalPhrases := List.mem_append_left fatalWords member
    rw [← containsText_lowercase (digits_of_statusCodes code member)]
    exact (shouldRetry_classify text).mp stays.retryable code phrase
  · intro absent
    apply staysQueued_of_retryable
    rw [shouldRetry_classify, fatalPhrases_eq]
    refine List.forall_mem_append.mpr ⟨?_, harmless.words⟩
    intro code member
    rw [containsText_lowercase (digits_of_statusCodes code member)]
    exact absent code member

instance (text code : List Char) : Decidable (OnlyInRuns text code) :=
  inferInstanceAs (Decidable (∀ start < text.length, _))

theorem staysQueued_timeout :
    NamesNoStatus "connect to 10.0.0.1:8443 timed out" ∧
      StaysQueued "connect to 10.0.0.1:8443 timed out" := by
  have harmless : NamesNoStatus "connect to 10.0.0.1:8443 timed out" :=
    ⟨by decide +kernel, by decide +kernel⟩
  exact ⟨harmless, (staysQueued_iff _ harmless).mpr (by decide +kernel)⟩

/-- A timeout of a connection to port 14040 discards the message at its first failure. -/
theorem port_discards_message :
    NamesNoStatus "connect to 10.0.0.1:14040 timed out" ∧
      (OutboxAttemptError.classify "connect to 10.0.0.1:14040 timed out").shouldRetry = false ∧
      ∃ outbox : Outbox, ∃ row ∈ outbox.rows, row.attempts = 0 ∧
        (finishOutboxAttempt outbox row.toClientOutboxMessage
          (.error (OutboxAttemptError.classify "connect to 10.0.0.1:14040 timed out"))
          .stored 0).1.rows = [] := by
  refine ⟨⟨by decide +kernel, by decide +kernel⟩, by decide +kernel,
    ({} : Outbox).enqueue .direct "recipient" "hello" 1, _, List.mem_singleton_self _, rfl, ?_⟩
  decide +kernel

end SignalPurple
