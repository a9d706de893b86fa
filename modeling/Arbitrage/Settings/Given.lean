import Arbitrage.Address

/-!
# What the settings take as given

Two things about the options are decided by libraries: whether a text is a web address, and which
account a private key signs for. The keeper asks little of them. Of a web address it wants to know the
scheme, and otherwise hands it on; of a key it wants to know whether there is a signer for it, and of
a signer the account. Here they are parameters, so that whatever is proved of the settings holds for
every way of reading addresses and keys. Only the command fixes one.
-/

namespace Arbitrage

/-- How web addresses are read. What a web address is, `υ`, is left to the reader; a text that it
refuses comes with the reason in words. -/
structure UrlReader (υ : Type) where
  read : String → Except String υ
  /-- What stands in front of the first colon, in lower case. -/
  scheme : υ → String

/-- How signers are made and known. A signer is made from the digits of a private key, which may be
refused although they are digits: not every number of 32 bytes is a key. -/
structure Signers (κ : Type) where
  ofDigits : String → Except String κ
  /-- The account that a signer signs for, which its key alone decides. -/
  account : κ → Address

end Arbitrage
