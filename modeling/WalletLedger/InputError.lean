import WalletLedger.Text.Quoted

/-!
# What can be wrong with an input

The reasons for which a tag, an amount or the description of a transfer is
refused. A message quotes the text it complains about, so that a reader can see
its blanks.
-/

namespace WalletLedger

/-- A reason to refuse an input. -/
inductive InputError where
  | unrecognizedTag (kind : String) (value : UInt32)
  | unrecognizedName (kind name : String)
  | missingIdentity
  | outOfRange (field : String)
  | embeddedNul (field : String)
  | encoding (field : String)
  | invalidDecimal (field value : String)
  | metadataCountMismatch (keys values : Nat)
deriving DecidableEq, Repr

/-- The text that a user sees. -/
def InputError.message : InputError → String
  | .unrecognizedTag kind value => s!"unrecognized {kind} tag: {value}"
  | .unrecognizedName kind name => s!"unrecognized {kind} name: " ++ Text.quoted name
  | .missingIdentity => "transfer has neither a hash nor uids"
  | .outOfRange field => s!"field `{field}` is out of range for a non-negative 64-bit integer"
  | .embeddedNul field => s!"field `{field}` contains an embedded NUL"
  | .encoding field => s!"field `{field}` is not valid UTF-8"
  | .invalidDecimal field value => s!"invalid decimal amount in `{field}`: " ++ Text.quoted value
  | .metadataCountMismatch keys values => s!"metadata has {keys} keys but {values} values"

end WalletLedger
