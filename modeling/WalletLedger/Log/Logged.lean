import WalletLedger.Log.Entry

/-!
# Answers with a log

An answer, or an error, together with the log entries that were made on the way.
What comes after an error is not done, and what was logged before it stays.
-/

namespace WalletLedger.Log

/-- An answer or an error, with log entries. -/
structure Logged (ε α : Type) where
  result : Except ε α
  entries : List Entry

namespace Logged

variable {ε α β : Type}

/-- An answer without log entries. -/
def ofResult (result : Except ε α) : Logged ε α :=
  ⟨result, []⟩

/-- An entry in the log. -/
def say (entry : Entry) : Logged ε Unit :=
  ⟨.ok (), [entry]⟩

/-- Goes on with what comes after an answer. -/
def andThen (first : Logged ε α) (next : α → Logged ε β) : Logged ε β :=
  match first.result with
  | .ok a => ⟨(next a).result, first.entries ++ (next a).entries⟩
  | .error error => ⟨.error error, first.entries⟩

instance : Monad (Logged ε) where
  pure a := ⟨.ok a, []⟩
  bind := andThen

/-! ## Laws -/

theorem result_bind_of_ok {first : Logged ε α} {a : α} (answered : first.result = .ok a)
    (next : α → Logged ε β) : (first >>= next).result = (next a).result := by
  change (first.andThen next).result = _
  rw [andThen, answered]

theorem result_bind_of_error {first : Logged ε α} {error : ε} (failed : first.result = .error error)
    (next : α → Logged ε β) : (first >>= next).result = .error error := by
  change (first.andThen next).result = _
  rw [andThen, failed]

end Logged

end WalletLedger.Log
