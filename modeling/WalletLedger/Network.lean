import WalletLedger.Tag

/-!
# Networks

The chains that a wallet can live on, with what differs between them: how finely
the native currency divides, how many confirmations make a transfer final, and
which metadata entries belong to a transfer.
-/

namespace WalletLedger

/-- A chain. -/
inductive Network where
  | btc | bch | bsv | eth | xrp | hbar | xtz
deriving DecidableEq, Repr, Inhabited

namespace Network

/-- The code of a network, which is also the code of its native currency. -/
def currencyCode : Network → String
  | btc => "btc"
  | bch => "bch"
  | bsv => "bsv"
  | eth => "eth"
  | xrp => "xrp"
  | hbar => "hbar"
  | xtz => "xtz"

/-- The number of a network. -/
def number : Network → UInt32
  | btc => 0
  | bch => 1
  | bsv => 2
  | eth => 3
  | xrp => 4
  | hbar => 5
  | xtz => 6

instance : Tag Network where
  kind := "network type"
  all := [btc, bch, bsv, eth, xrp, hbar, xtz]
  code := number
  name := currencyCode
  label network := Text.raised network.currencyCode

/-- How many decimal places the native currency has. -/
def decimals : Network → UInt8
  | btc | bch | bsv | hbar => 8
  | eth => 18
  | xrp | xtz => 6

/-- After how many confirmations a transfer is final, unless a configuration says otherwise. -/
def confirmationsUntilFinal : Network → UInt32
  | btc | bch | bsv | eth => 6
  | xrp => 1
  | hbar => 0
  | xtz => 3

/-- The keys of the metadata entries that belong to a transfer, in the spelling of the network. -/
def attributeKeys : Network → List String
  | xrp => ["DestinationTag", "InvoiceId"]
  | hbar => ["Memo"]
  | btc | bch | bsv | eth | xtz => []

/-- Networks are ordered by their numbers. -/
instance : Ord Network where
  compare a b := compare a.number b.number

end Network

end WalletLedger
